import RouteWrap.Proofs.Frame

/-!
Exports of another module's names. What is wrapped of such a list is imported right before it and
exported by constants right behind it, and the list exports the aliases. The import asks for the
module by its specifier alone, so it asks for the same as the list where the list has no attributes
and nothing in its specifier needs an escape.
-/

namespace RouteWrap

theorem isSurrogate_toNat (c : Char) : isSurrogate c.toNat = false := by
  have valid : c.toNat < 0xd800 ∨ 0xdfff < c.toNat ∧ c.toNat < 0x110000 := c.valid
  simp only [isSurrogate, Bool.and_eq_false_iff, decide_eq_false_iff_not]
  omega

theorem Points.any_isSurrogate_unescaped (ps : Points) : ps.unescaped.any isSurrogate = false := by
  have spelled (n : Nat) : ((Nat.toDigits 16 n).map Char.toNat).any isSurrogate = false := by
    simp [isSurrogate_toNat]
  rw [unescaped, List.any_flatMap, List.any_eq_false]
  intro n _
  split
  · rw [List.any_cons, spelled]
    decide
  · next plain =>
    rw [Bool.or_eq_true, not_or] at plain
    simpa using plain.1

theorem Points.unescaped_eq_iff {ps : Points} :
    ps.unescaped = ps ↔ ps.any isSurrogate = false := by
  constructor
  · intro same
    rw [← same]
    exact ps.any_isSurrogate_unescaped
  · intro unmarked
    have plain (n : Nat) (listed : n ∈ ps) : isSurrogate n = false := by
      simpa using List.any_eq_false.mp unmarked n listed
    rw [unescaped, unmarked]
    refine (List.flatMap_congr fun n listed => ?_).trans (List.flatMap_singleton' ps)
    simp [plain n listed]

/-- What the key or the value of an attribute says. -/
def Tree.spelled : Tree → Points
  | .expr _ (.string ps) _ | .link _ (.moduleString ps) _ => ps
  | .expr _ (.keyName n) _ | .link _ (.moduleName n) _ => .ofString n
  | _ => []

namespace Request

def attributePairs (r : Request) : List (Points × Points) :=
  match r.attributes with
  | .link _ (.attributes _) ps => ps.filterMap fun p =>
      match p with
      | .link _ .attributePair [key, value] => some (key.spelled, value.spelled)
      | _ => none
  | _ => []

/-- The requests name one module and have the same attributes. -/
def SameAs (r s : Request) : Prop :=
  r.specifier = s.specifier ∧ r.attributePairs = s.attributePairs

instance (r s : Request) : Decidable (r.SameAs s) :=
  inferInstanceAs (Decidable (_ ∧ _))

theorem sameAs_unescaped_iff {r : Request} {span : Span} :
    SameAs ⟨span, r.specifier.unescaped, .absent⟩ r ↔
      r.attributePairs = [] ∧ r.specifier.any isSurrogate = false := by
  rw [SameAs, Points.unescaped_eq_iff, and_comm, eq_comm]
  rfl

end Request

theorem ExportList.requestedFor_eq {l : ExportList} {r : Request} {changes : List SpecifierChange}
    (requested : l.request = some r)
    (wrapped : changes.filterMap SpecifierChange.wrapping ≠ []) :
    l.requestedFor changes =
      [importNamed (changes.filterMap SpecifierChange.imported) r.specifier.unescaped] := by
  unfold requestedFor
  rw [requested]
  cases imported : changes.filterMap SpecifierChange.imported with
  | cons s ss => rfl
  | nil =>
      -- Whatever is wrapped is imported, so nothing would be wrapped.
      refine absurd (List.filterMap_eq_nil_iff.mpr fun c changed => ?_) wrapped
      simpa [SpecifierChange.imported] using List.filterMap_eq_nil_iff.mp imported c changed

namespace SpecifierChange

/-- A specifier stays, or it is exported as an alias that is wrapped in its place. -/
def ReExports (c : SpecifierChange) : Prop :=
  c.after = c.before ∧ c.wrapping = none ∨
    ∃ span e a, c.before.exported = .name span e.name ∧ e.shape = .reExport ∧
      c.after = { c.before with exported := .name .none a } ∧
        c.wrapping = some ⟨e, .ref .none .value a⟩

theorem Fits.reExports {σ : Renaming} {l : ExportList} {c : SpecifierChange} (fits : c.Fits σ l)
    (requested : l.request.isSome) : c.ReExports := by
  cases fits with
  | kept s =>
      rw [Option.isNone_eq_false_iff.mpr requested]
      exact .inl ⟨rfl, rfl⟩
  | reExport freshName requested exported shape =>
      exact .inr ⟨_, _, freshName, exported, shape, rfl, rfl⟩
  | moved freshName own | aliased source freshName own => simp [own] at requested

end SpecifierChange

namespace Module

variable (m : Module) (preset : Preset) (routeId : String)

variable {m preset} in
theorem imported_fresh {p : Plan} (planned : p ∈ (m.plans preset).1) :
    p.imported.Nodup ∧ ∀ a ∈ p.imported, a ∉ m.names := by
  have among : p.imported.Sublist (m.requested preset) := by
    rw [requested, List.flatMap_def]
    exact List.sublist_flatten_of_mem (List.mem_map_of_mem planned)
  obtain ⟨once, fresh⟩ := m.bound_fresh preset
  rw [List.nodup_append', List.nodup_append'] at once
  refine ⟨once.2.1.1.sublist among, fun a imported => fresh a ?_⟩
  exact List.mem_append_right _ (List.mem_append_left _ (among.subset imported))

/-- A list of another module's names is rebuilt where it stood. What is imported for it asks for
the same as the list just where that has no attributes and no surrogate stands alone in its
specifier. -/
theorem reExported_list_asks_same_iff {before after : List Item} {l : ExportList} {r : Request}
    (listed : m.items = before ++ .exportList l :: after) (requested : l.request = some r) :
    ∃ wrappers blocksBefore changes blocksAfter,
      (m.rewriteExports preset routeId).1.items =
          (wrappers ++ blocksBefore.flatMap Prod.snd) ++
            l.block (.ofString routeId) changes ++ blocksAfter.flatMap Prod.snd ∧
        (m.rewriteExports preset routeId).2.wrapped =
          (blocksBefore.flatMap Prod.fst ++ changes.filterMap SpecifierChange.wrapping ++
            blocksAfter.flatMap Prod.fst).map Wrapping.entry ∧
        List.Forall₂ (m.Rebuilds preset routeId) before blocksBefore ∧
        List.Forall₂ (m.Rebuilds preset routeId) after blocksAfter ∧
        changes.map SpecifierChange.before = l.specifiers ∧
        (∀ c ∈ changes, c.ReExports) ∧
        ((changes.filterMap SpecifierChange.imported).map (·.2)).Nodup ∧
        (∀ s ∈ changes.filterMap SpecifierChange.imported, s.2 ∉ m.names) ∧
        (changes.filterMap SpecifierChange.wrapping ≠ [] →
          ∃ d, l.requestedFor changes = [.imports d] ∧
            .imports d = importNamed (changes.filterMap SpecifierChange.imported)
              d.request.specifier ∧
            (d.request.SameAs r ↔
              r.attributePairs = [] ∧ r.specifier.any isSurrogate = false)) := by
  obtain ⟨front, p, back, split, rfl, origin, rfl⟩ := exists_plans_split preset listed
  have planned : p ∈ (m.plans preset).1 := by simp [split]
  have fits := m.for_of_mem_plans planned
  rw [origin] at fits
  cases fits with
  | keep _ unlisted => exact absurd rfl (unlisted l)
  | @list l ps each =>
      let changes := ps.map (SpecifierPlan.change preset (m.references preset) l.request.isNone)
      have isRequested : l.request.isSome := by simp [requested]
      obtain ⟨origins, fits⟩ := SpecifierPlan.for_origins each
      have block : m.block preset routeId (.list l ps) =
          (changes.filterMap SpecifierChange.wrapping, l.block (.ofString routeId) changes) := by
        rw [block, Plan.wrappings_list preset l ps _ l.request.isNone, Plan.image_list each]
      have imported : (Plan.list l ps).imported =
          (changes.filterMap SpecifierChange.imported).map (·.2) := by
        rw [Plan.imported, Plan.specifiers, Plan.imported_eq each isRequested]
      obtain ⟨once, fresh⟩ := imported_fresh planned
      rw [imported] at once fresh
      refine ⟨RouteWrap.wrapperImports preset (m.plans preset).2,
        front.map (m.block preset routeId), changes, back.map (m.block preset routeId),
        ?_, ?_, m.rebuilds_map preset routeId ?_, m.rebuilds_map preset routeId ?_, ?_, ?_, once,
        fun s specified => fresh _ (List.mem_map_of_mem specified), fun wrapped => ?_⟩
      · rw [items_rewriteExports, blocks, split, List.map_append, List.map_cons, block]
        simp
      · rw [wrapped_rewriteExports, blocks, split, List.map_append, List.map_cons, block]
        simp
      · rw [split]
        exact List.subset_append_left _ _
      · rw [split]
        exact fun p listed => List.mem_append_right _ (List.mem_cons_of_mem _ listed)
      · rw [List.map_map, ← origins]
        rfl
      · intro c changed
        obtain ⟨q, specified, rfl⟩ := List.mem_map.mp changed
        refine ((fits q specified).fits_change fun move moved => ?_).reExports isRequested
        refine List.mem_reverse.mpr (List.mem_flatMap.mpr ⟨.list l ps, planned, ?_⟩)
        exact List.mem_flatMap.mpr ⟨q, specified, moved⟩
      · exact ⟨_, ExportList.requestedFor_eq requested wrapped, rfl, Request.sameAs_unescaped_iff⟩

/-- `export { loader, x } from "./y"` -/
def reExportedList : ExportList :=
  { span := .none, typeOnly := false
    specifiers :=
      [⟨.none, false, .name .none "loader", .name .none "loader"⟩,
       ⟨.none, false, .name .none "x", .name .none "x"⟩]
    request := some ⟨.none, .ofString "./y", .absent⟩ }

theorem reExportedList_asks_same :
    (ofItems [.exportList reExportedList]).items = [] ++ .exportList reExportedList :: [] ∧
      reExportedList.request = some ⟨.none, .ofString "./y", .absent⟩ ∧
      ∃ d, .imports d ∈
          ((ofItems [.exportList reExportedList]).rewriteExports .dataFunctions "r").1.items ∧
        d.request.SameAs ⟨.none, .ofString "./y", .absent⟩ := by
  have listed : (ofItems [.exportList reExportedList]).items =
      [] ++ .exportList reExportedList :: [] := rfl
  obtain ⟨wrappers, blocksBefore, changes, blocksAfter, items, wrapped, nothing, nothing', -, -, -,
      -, asks⟩ :=
    reExported_list_asks_same_iff (ofItems [.exportList reExportedList]) .dataFunctions "r" listed
      rfl
  cases nothing
  cases nothing'
  obtain ⟨d, imported, -, same⟩ := asks fun none => by
    rw [none] at wrapped
    revert wrapped
    decide
  refine ⟨listed, rfl, d, ?_, same.mpr (by decide)⟩
  rw [items, ExportList.block, imported]
  simp

/-- `export { loader } from "./x.json" with { type: "json" }` -/
def typedList : ExportList :=
  { span := .none, typeOnly := false
    specifiers := [⟨.none, false, .name .none "loader", .name .none "loader"⟩]
    request := some ⟨.none, .ofString "./x.json", .link .none (.attributes "with")
      [.link .none .attributePair
        [.expr .none (.keyName "type") [], .expr .none (.string (.ofString "json")) []]]⟩ }

theorem typedList_asks_other :
    Preset.dataFunctions.fault? = none ∧
      Preset.dataFunctions.entry "loader" .reExport "withLoaderWrapper" ∈
        ((ofItems [.exportList typedList]).rewriteExports .dataFunctions "r").2.wrapped ∧
      ∀ d r, .imports d ∈
          ((ofItems [.exportList typedList]).rewriteExports .dataFunctions "r").1.items →
        typedList.request = some r → ¬ d.request.SameAs r := by
  refine ⟨by decide, by decide, fun d r listed requested => ?_⟩
  cases requested
  have items : ((ofItems [.exportList typedList]).rewriteExports .dataFunctions "r").1.items =
      [importNamed [(.name .none "withLoaderWrapper", "withLoaderWrapper")]
          (.ofString "react-router-devtools/server"),
        importNamed [(.name .none "loader", "_loader")] (.ofString "./x.json"),
        .exportList { typedList with specifiers :=
          [⟨.none, false, .name .none "loader", .name .none "_loader"⟩] },
        exportConst "loader" (wrapperCall "withLoaderWrapper" (.ref .none .value "_loader")
          (.ofString "r"))] := rfl
  rw [items] at listed
  simp only [importNamed, exportConst, List.mem_cons, Item.imports.injEq, reduceCtorEq,
    List.not_mem_nil, or_false] at listed
  rcases listed with rfl | rfl
  · decide
  · decide

end Module

end RouteWrap
