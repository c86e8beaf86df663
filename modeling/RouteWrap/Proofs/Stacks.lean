import RouteWrap.Proofs.Initials
import RouteWrap.Transform

/-!
Presets applied one after the other. What one pass wraps is a constant of the module that the next
one finds, so a later pass that recognizes the name wraps that constant again. The calls nest in the
order of the passes, and what they call stays imported, as no list exports it.
-/

namespace RouteWrap

theorem filter_mem_eq_of_sublist [DecidableEq α] {as bs : List α} (kept : as.Sublist bs)
    (once : bs.Nodup) : bs.filter (· ∈ as) = as := by
  have listed : as.filter (· ∈ as) = as := by simp
  have sublist := kept.filter (· ∈ as)
  rw [listed] at sublist
  have same : as.Perm (bs.filter (· ∈ as)) := by
    refine (List.perm_ext_iff_of_nodup (once.sublist kept) (once.filter _)).mpr fun a => ?_
    simpa using fun listed => kept.subset listed
  exact (sublist.eq_of_length same.length_eq).symm

/-! Nested calls -/

/-- The value wrapped by one callee after the other, from the inside out. -/
def nest (route : Points) (callees : List String) (value : Tree) : Tree :=
  callees.foldl (fun value callee => wrapperCall callee value route) value

theorem nest_concat (route : Points) (callees : List String) (callee : String) (value : Tree) :
    nest route (callees ++ [callee]) value =
      wrapperCall callee (nest route callees value) route := by
  rw [nest, List.foldl_append]
  rfl

theorem Tree.rename_wrapperCall {σ : Renaming} {callee : String}
    (unmoved : callee ∉ σ.map Prod.fst) (value : Tree) (route : Points) :
    (wrapperCall callee value route).rename σ = wrapperCall callee (value.rename σ) route := by
  simp [wrapperCall, rename, renameUnder, renameListUnder, Form.kept, Form.keeps, Form.scope,
    Form.reformed, answers, Renaming.apply_of_notMem unmoved]

theorem Tree.rename_nest {σ : Renaming} {callees : List String}
    (unmoved : ∀ c ∈ callees, c ∉ σ.map Prod.fst) (route : Points) (value : Tree) :
    (nest route callees value).rename σ = nest route callees (value.rename σ) := by
  induction callees generalizing value with
  | nil => rfl
  | cons c cs ih =>
      obtain ⟨unmovedC, unmoved⟩ := List.forall_mem_cons.mp unmoved
      change (nest route cs _).rename σ = nest route cs _
      rw [ih unmoved, Tree.rename_wrapperCall unmovedC]

/-! What lists export of their own module -/

/-- A list exports what the module itself calls `n`. -/
inductive Item.Lists (n : String) : Item → Prop
  | specifier {l : ExportList} {s : ExportSpecifier} {span : Span} (own : l.request = none)
      (specified : s ∈ l.specifiers) (named : s.localName = .name span n) :
      Item.Lists n (.exportList l)

section

variable {preset : Preset} {surface : Surface} {σ τ : Renaming} {route : Points} {span : Span}
  {n : String}

theorem LinkName.of_rename_eq {k : LinkName} (renamed : k.rename σ = .name span n) :
    k = .name span n ∨ n ∈ σ.map Prod.snd := by
  cases k with
  | string => cases renamed
  | name inner k =>
      obtain ⟨rfl, rfl⟩ := LinkName.name.inj renamed
      by_cases moved : k ∈ σ.map Prod.fst
      · exact .inr (List.mem_map_of_mem (Renaming.apply_mem moved))
      · exact .inl (by rw [Renaming.apply_of_notMem moved])

theorem SpecifierPlan.For.named_specifier {l : ExportList} {s : ExportSpecifier}
    {q : SpecifierPlan} (fits : For preset surface l s q) (own : l.request = none)
    (named : (q.specifier σ true).localName = .name span n) :
    (∃ span, s.localName = .name span n) ∨ n ∈ q.aliases ∨ n ∈ σ.map Prod.snd := by
  cases fits with
  | keep => exact (LinkName.of_rename_eq named).imp (⟨span, ·⟩) .inr
  | reExport k callee exported recognized valued requested => simp [own] at requested
  | moved =>
      obtain ⟨-, rfl⟩ := LinkName.name.inj named
      exact .inr (.inl (List.mem_singleton_self _))
  | aliased => exact (LinkName.of_rename_eq named).imp (⟨span, ·⟩) .inr

/-- A list in an item's place exports what the item did, or an alias, or what was renamed. -/
theorem Plan.For.lists_of_image {i j : Item} {p : Plan} (fits : For preset surface i p)
    (image : j ∈ p.image σ τ route) (lists : j.Lists n) :
    i.Lists n ∨ n ∈ p.aliases ∨ n ∈ σ.map Prod.snd := by
  obtain ⟨own, specified, named⟩ := lists
  cases fits with
  | keep i unlisted kept =>
      rw [Plan.image, List.mem_singleton] at image
      cases i with
      | exportList l => exact absurd rfl (unlisted l)
      | _ => cases image
  | drop => exact absurd image List.not_mem_nil
  | initial | function => cases List.mem_singleton.mp image
  | @list l₀ ps each =>
      rcases mem_image_list image with ⟨ss, path, same⟩ | same | ⟨k, value, same⟩
      · cases same
      · obtain rfl := Item.exportList.inj same
        obtain ⟨q, planned, rfl⟩ := List.mem_map.mp specified
        obtain ⟨origins, fits⟩ := SpecifierPlan.for_origins each
        rw [show l₀.request = none from own, Option.isNone_none] at named
        rcases (fits q planned).named_specifier own named with ⟨span, before⟩ | given | target
        · exact .inl (.specifier own (origins ▸ List.mem_map_of_mem planned) before)
        · exact .inr (.inl (List.mem_flatMap.mpr ⟨q, planned, given⟩))
        · exact .inr (.inr target)
      · cases same

end

namespace Module

variable {m : Module} {preset : Preset} {routeId : String}

/-! Imports that stay where they are -/

def Lists (m : Module) (n : String) : Prop := ∃ i ∈ m.items, i.Lists n

theorem mem_names_of_lists {n : String} (lists : m.Lists n) : n ∈ m.names := by
  obtain ⟨i, listed, @⟨l, s, span, own, specified, named⟩⟩ := lists
  refine Tree.mem_namesList.mpr ⟨l.toTree, List.mem_map_of_mem (f := Item.toTree) listed, ?_⟩
  refine Tree.mem_namesList.mpr ⟨s.toTree l.typeOnly l.request.isNone, ?_, ?_⟩
  · exact List.mem_append_right _ (List.mem_map_of_mem specified)
  · simp [ExportSpecifier.toTree, own, named, LinkName.toReference, Tree.names, Tree.namesList]

theorem lists_of_mem_moves {n : String} (source : n ∈ (m.moves preset).map Prod.fst) :
    m.Lists n := by
  obtain ⟨move, moved, rfl⟩ := List.mem_map.mp source
  obtain ⟨p, planned, moved⟩ := List.mem_flatMap.mp moved
  obtain ⟨q, specified, moved⟩ := List.mem_flatMap.mp moved
  obtain ⟨l, listed, specifiedL, fits, -⟩ := exists_list_of_planned planned specified
  generalize q.origin = s at specifiedL fits
  cases fits with
  | @moved span inner e k callee exported recognized valued own named imported =>
      rw [List.mem_singleton.mp moved]
      exact ⟨_, listed, .specifier own specifiedL (by rw [named]; rfl)⟩
  | keep | reExport | aliased => exact absurd moved List.not_mem_nil

theorem lists_of_rewriteExports {n : String}
    (lists : (m.rewriteExports preset routeId).1.Lists n) :
    m.Lists n ∨ n ∈ m.aliases preset := by
  obtain ⟨j, listed, lists⟩ := lists
  rw [items_rewriteExports, blocks, List.flatMap_map, List.mem_append] at listed
  rcases listed with wrapper | image
  · obtain ⟨ss, path, rfl⟩ := wrapperImports_imports preset _ _ wrapper
    cases lists
  · obtain ⟨p, planned, image⟩ := List.mem_flatMap.mp image
    rcases (m.for_of_mem_plans planned).lists_of_image image lists with before | given | target
    · exact .inl ⟨_, origin_mem_items planned, before⟩
    · exact .inr (List.mem_flatMap.mpr ⟨p, planned, given⟩)
    · exact .inr (targets_subset_aliases target)

/-- An import that no list exports again, so that it keeps its name. -/
structure KeepsImport (m : Module) (n : String) (request : Request) (what : Imported) :
    Prop where
  binds : m.BindsImport n request what
  unlisted : ¬ m.Lists n

namespace KeepsImport

variable {n : String} {request : Request} {what : Imported}

theorem unmoved (keeps : m.KeepsImport n request what) :
    n ∉ (m.references preset).map Prod.fst := by
  rw [references, List.map_reverse, List.mem_reverse]
  exact fun source => keeps.unlisted (lists_of_mem_moves source)

theorem mem_names (keeps : m.KeepsImport n request what) : n ∈ m.names := by
  refine m.valueNames_subset_names ((Tally.mem_names m.implementations_subperm_values.subset).mpr
    (.inl ?_))
  exact imported_subset_values keeps.binds.imported

theorem rewriteExports (keeps : m.KeepsImport n request what) (preset : Preset)
    (routeId : String) : (m.rewriteExports preset routeId).1.KeepsImport n request what := by
  have stays : (m.moves preset).apply n = n :=
    Renaming.apply_of_notMem fun source => keeps.unlisted (lists_of_mem_moves source)
  refine ⟨stays ▸ bindsImport_rewriteExports keeps.binds, fun lists => ?_⟩
  rcases lists_of_rewriteExports lists with before | given
  · exact keeps.unlisted before
  · exact (m.accounts_plans preset).2.supplied.apart _ (List.mem_append_left _ given) keeps.mem_names

theorem instrument (keeps : m.KeepsImport n request what) (presets : List Preset)
    (routeId : String) : (m.instrument presets routeId).1.KeepsImport n request what := by
  induction presets generalizing m with
  | nil => exact keeps
  | cons preset presets ih => exact ih (keeps.rewriteExports preset routeId)

end KeepsImport

/-- The module imports what a preset calls the wrapper of `n`, from where a group of it says. -/
def ImportsWrapper (m : Module) (preset : Preset) (n callee : String) : Prop :=
  ∃ g ∈ preset.groups, n ∈ g.exports ∧
    m.BindsImport callee ⟨.none, .ofString g.runtimePath, .absent⟩
      (.name (.name .none (preset.wrapperName n)))

theorem bindsImport_of_importNamed {specifiers : List (LinkName × String)} {path : Points}
    (listed : importNamed specifiers path ∈ m.items) {k : LinkName} {n : String}
    (specified : (k, n) ∈ specifiers) :
    m.BindsImport n ⟨.none, path, .absent⟩ (.name k) :=
  ⟨_, ⟨.none, false, .name k, ⟨.none, n⟩⟩, listed, List.mem_map.mpr ⟨_, specified, rfl⟩, rfl, rfl,
    rfl, rfl, rfl⟩

theorem keepsImport_localOf {e : WrappedExport}
    (reported : e ∈ (m.rewriteExports preset routeId).2.wrapped) :
    ∃ g ∈ preset.groups, e.name ∈ g.exports ∧
      (m.rewriteExports preset routeId).1.KeepsImport (m.localOf preset e.name)
        ⟨.none, .ofString g.runtimePath, .absent⟩
        (.name (.name .none (preset.wrapperName e.name))) := by
  obtain ⟨g, i, listed, lists, named, -⟩ := group_of_mem_wrapped reported
  have wrapped := mem_names_of_mem_wrapped reported
  have imports : importNamed
      (((m.rewriteExports preset routeId).2.namesOf preset i).map fun n =>
        (.name .none (preset.wrapperName n), m.localOf preset n))
      (.ofString g.runtimePath) ∈ (m.rewriteExports preset routeId).1.items := by
    rw [items_rewriteExports, wrapperImports_eq m preset routeId]
    refine List.mem_append_left _ (List.mem_map.mpr ⟨(g, i), List.mem_filter.mpr ⟨listed, ?_⟩, rfl⟩)
    simpa using List.ne_nil_of_mem named
  refine ⟨g, List.fst_mem_of_mem_zipIdx listed, lists,
    bindsImport_of_importNamed imports (List.mem_map.mpr ⟨e.name, named, rfl⟩), fun lists => ?_⟩
  rcases lists_of_rewriteExports lists with before | given
  · exact localOf_notMem_names wrapped (mem_names_of_lists before)
  · exact localOf_notMem_aliases wrapped given

end Module

/-! Passes -/

structure Pass where
  before : Module
  preset : Preset

namespace Pass

section

variable (routeId : String) (p : Pass)

def report : Report := (p.before.rewriteExports p.preset routeId).2

def names : List String := (p.report routeId).wrapped.map (·.name)

def wrappings : List Wrapping := (p.before.blocks p.preset routeId).flatMap Prod.fst

/-- A value after the pass, in which the imports have moved. -/
def renamed (value : Tree) : Tree := value.rename (p.before.references p.preset)

end

/-- What the passes that recognize `n` call its wrapper, in their order. -/
def callees (n : String) (passes : List Pass) : List String :=
  (passes.filter (·.preset.recognizes n)).map fun p => p.before.localOf p.preset n

theorem callees_cons (n : String) (p : Pass) (ps : List Pass) :
    callees n (p :: ps) =
      if p.preset.recognizes n then p.before.localOf p.preset n :: callees n ps
      else callees n ps := by
  rw [callees, List.filter_cons]
  split
  · rfl
  · rfl

/-- The later pass wraps the constants that the first one made of what both recognize. -/
structure Rewraps (routeId : String) (first later : Pass) : Prop where
  again : ∀ n ∈ first.names routeId, later.preset.recognizes n →
    (later.names routeId).count n = (first.names routeId).count n ∧
      ∀ e ∈ (later.report routeId).wrapped, e.name = n → e.shape = .variableDeclaration
  order : (first.names routeId).filter (· ∈ later.names routeId) =
    (later.names routeId).filter (· ∈ first.names routeId)

end Pass

namespace Module

variable {routeId : String}

/-- The turns of the presets, in their order. -/
def passes (m : Module) (routeId : String) : List Preset → List Pass
  | [] => []
  | preset :: presets => ⟨m, preset⟩ :: (m.rewriteExports preset routeId).1.passes routeId presets

theorem wrapped_instrument (m : Module) (presets : List Preset) (routeId : String) :
    (m.instrument presets routeId).2.wrapped =
      (m.passes routeId presets).flatMap fun p => (p.report routeId).wrapped := by
  induction presets generalizing m with
  | nil => rfl
  | cons preset presets ih =>
      rw [passes, List.flatMap_cons, ← ih]
      rfl

theorem exists_of_passes_split {m : Module} {presets : List Preset} {front back : List Pass}
    {p : Pass} (split : m.passes routeId presets = front ++ p :: back) :
    ∃ earlier later, presets = earlier ++ p.preset :: later ∧
      p.before = (m.instrument earlier routeId).1 ∧
      back = (p.before.rewriteExports p.preset routeId).1.passes routeId later ∧
      (m.instrument presets routeId).1 =
        ((p.before.rewriteExports p.preset routeId).1.instrument later routeId).1 := by
  induction presets generalizing m front with
  | nil => exact absurd split (by simp [passes])
  | cons preset presets ih =>
      cases front with
      | nil =>
          obtain ⟨rfl, rfl⟩ := List.cons.inj split
          exact ⟨[], presets, rfl, rfl, rfl, rfl⟩
      | cons q front =>
          obtain ⟨-, split⟩ := List.cons.inj split
          obtain ⟨earlier, later, rfl, before, rest, final⟩ := ih split
          exact ⟨preset :: earlier, later, rfl, before, rest, final⟩

theorem ExportsOnce.instrument {m : Module} (once : m.ExportsOnce) (presets : List Preset)
    (routeId : String) : (m.instrument presets routeId).1.ExportsOnce := by
  induction presets generalizing m with
  | nil => exact once
  | cons preset presets ih => exact ih (once.rewriteExports preset routeId)

theorem sublist_initials_instrument (m : Module) (presets : List Preset) (routeId : String) :
    (m.initials.map Prod.fst).Sublist
      ((m.instrument presets routeId).1.initials.map Prod.fst) := by
  induction presets generalizing m with
  | nil => exact List.Sublist.refl _
  | cons preset presets ih => exact (m.sublist_initials preset routeId).1.trans (ih _)

theorem nest_mem_initials_instrument {m : Module} {n : String} {callees : List String}
    (kept : ∀ c ∈ callees, ∃ request what, m.KeepsImport c request what) {value : Tree}
    (listed : (n, nest (.ofString routeId) callees value) ∈ m.initials) (presets : List Preset) :
    (n, nest (.ofString routeId) (callees ++ Pass.callees n (m.passes routeId presets))
        ((m.passes routeId presets).foldl (fun value p => p.renamed value) value)) ∈
      (m.instrument presets routeId).1.initials := by
  -- No list exports the callees so far, so their imports keep their names through every pass.
  induction presets generalizing m callees value with
  | nil =>
      rw [passes, Pass.callees, List.filter_nil, List.map_nil, List.append_nil]
      exact listed
  | cons preset presets ih =>
      obtain ⟨rewrapped, wraps⟩ := mem_initials_rewriteExports preset routeId listed
      have unmoved (c : String) (called : c ∈ callees) :
          c ∉ (m.references preset).map Prod.fst := by
        obtain ⟨request, what, keeps⟩ := kept c called
        exact keeps.unmoved
      have keptOn (c : String) (called : c ∈ callees) :
          ∃ request what, (m.rewriteExports preset routeId).1.KeepsImport c request what := by
        obtain ⟨request, what, keeps⟩ := kept c called
        exact ⟨request, what, keeps.rewriteExports preset routeId⟩
      rw [Module.rewrapped, Tree.rename_nest unmoved] at rewrapped
      rw [passes, Pass.callees_cons]
      split at rewrapped
      · next recognized =>
        rw [← nest_concat] at rewrapped
        rw [if_pos recognized, List.append_cons]
        refine ih (fun c called => ?_) rewrapped
        rcases List.mem_append.mp called with called | own
        · exact keptOn c called
        · obtain ⟨g, -, -, keeps⟩ := keepsImport_localOf (wraps recognized)
          rw [List.mem_singleton.mp own]
          exact ⟨_, _, keeps⟩
      · next unrecognized =>
        rw [if_neg unrecognized]
        exact ih keptOn rewrapped

/-- What the passes call to wrap a constant again, the module imports in the end. -/
theorem importsWrapper_instrument {m : Module} {n : String} {value : Tree}
    (listed : (n, value) ∈ m.initials) (presets : List Preset) :
    ∀ p ∈ m.passes routeId presets, p.preset.recognizes n →
      (m.instrument presets routeId).1.ImportsWrapper p.preset n
        (p.before.localOf p.preset n) := by
  induction presets generalizing m value with
  | nil => exact fun p turn => absurd turn List.not_mem_nil
  | cons preset presets ih =>
      obtain ⟨rewrapped, wraps⟩ := mem_initials_rewriteExports preset routeId listed
      intro p turn recognized
      rcases List.mem_cons.mp turn with rfl | later
      · obtain ⟨g, grouped, lists, keeps⟩ := keepsImport_localOf (wraps recognized)
        exact ⟨g, grouped, lists, (keeps.instrument presets routeId).binds⟩
      · exact ih rewrapped p later recognized

end Module

namespace Pass

variable {routeId : String} {first later : Pass}

theorem filter_names (given : ∀ n, first.preset.recognizes n → isMarked n = false)
    (givenLater : ∀ n, later.preset.recognizes n → isMarked n = false)
    (once : later.before.ExportsOnce)
    (constants : (first.names routeId).Sublist (later.before.initials.map Prod.fst)) :
    (later.names routeId).filter (· ∈ first.names routeId) =
      (first.names routeId).filter later.preset.recognizes := by
  have unmarked (n : String) (wrapped : n ∈ first.names routeId) : isMarked n = false :=
    given n (Module.recognizes_of_mem_wrapped wrapped)
  -- Among the constants, marked or not, a name that the first pass wraps stands once.
  have taken : (later.before.initials.map Prod.fst).filter (· ∈ first.names routeId) =
      first.names routeId := by
    have kept := constants.filter (!isMarked ·)
    rw [List.filter_eq_self.mpr fun n wrapped => by rw [unmarked n wrapped]; rfl] at kept
    have found := filter_mem_eq_of_sublist kept once.nodup_initials
    rw [List.filter_filter] at found
    refine Eq.trans (List.filter_congr fun n _ => ?_) found
    simpa using fun wrapped => unmarked n wrapped
  have rewrapped : (later.names routeId).filter (· ∈ later.before.initials.map Prod.fst) =
      (later.before.initials.map Prod.fst).filter later.preset.recognizes :=
    once.filter_wrapped givenLater
  calc (later.names routeId).filter (· ∈ first.names routeId)
    _ = ((later.names routeId).filter (· ∈ later.before.initials.map Prod.fst)).filter
          (· ∈ first.names routeId) := by
        rw [List.filter_filter]
        refine List.filter_congr fun n _ => ?_
        simpa using fun wrapped => constants.subset wrapped
    _ = ((later.before.initials.map Prod.fst).filter later.preset.recognizes).filter
          (· ∈ first.names routeId) := by
        rw [rewrapped]
    _ = ((later.before.initials.map Prod.fst).filter (· ∈ first.names routeId)).filter
          later.preset.recognizes := List.filter_comm ..
    _ = (first.names routeId).filter later.preset.recognizes := by rw [taken]

theorem rewraps (given : ∀ n, first.preset.recognizes n → isMarked n = false)
    (givenLater : ∀ n, later.preset.recognizes n → isMarked n = false)
    (onceFirst : first.before.ExportsOnce) (once : later.before.ExportsOnce)
    (constants : (first.names routeId).Sublist (later.before.initials.map Prod.fst)) :
    Rewraps routeId first later := by
  have distinct : (first.names routeId).Nodup := onceFirst.nodup_wrapped given
  have distinctLater : (later.names routeId).Nodup := once.nodup_wrapped givenLater
  have reported {n : String} (wrapped : n ∈ first.names routeId)
      (recognized : later.preset.recognizes n) :
      later.preset.entry n .variableDeclaration (later.before.localOf later.preset n) ∈
        (later.report routeId).wrapped := by
    obtain ⟨c, constant, rfl⟩ := List.mem_map.mp (constants.subset wrapped)
    exact (Module.mem_initials_rewriteExports _ routeId constant).2 recognized
  refine ⟨fun n wrapped recognized => ⟨?_, fun e listed named => ?_⟩, ?_⟩
  · rw [List.count_eq_one_of_mem distinct wrapped]
    exact List.count_eq_one_of_mem distinctLater
      (List.mem_map.mpr ⟨_, reported wrapped recognized, rfl⟩)
  · rw [List.inj_on_of_nodup_map distinctLater listed (reported wrapped recognized) named]
    rfl
  · rw [filter_names given givenLater once constants]
    refine List.filter_congr fun n wrapped => ?_
    rw [Bool.eq_iff_iff, decide_eq_true_eq]
    constructor
    · exact fun wrappedLater => Module.recognizes_of_mem_wrapped wrappedLater
    · intro recognized
      exact List.mem_map.mpr ⟨_, reported wrapped recognized, rfl⟩

end Pass

theorem Preset.exists_group_of_recognizes {preset : Preset} {n : String}
    (recognized : preset.recognizes n) : ∃ g ∈ preset.groups, n ∈ g.exports := by
  obtain ⟨i, grouped⟩ := Option.isSome_iff_exists.mp recognized
  obtain ⟨bounded, lists, -⟩ := List.findIdx?_eq_some_iff_getElem.mp grouped
  exact ⟨_, List.getElem_mem bounded, List.contains_iff_mem.mp lists⟩

namespace Module

variable {routeId : String}

theorem pairwise_rewraps {m : Module} {presets : List Preset}
    (given : ∀ preset ∈ presets, ∀ n, preset.recognizes n → isMarked n = false)
    (once : m.ExportsOnce) : (m.passes routeId presets).Pairwise (Pass.Rewraps routeId) := by
  induction presets generalizing m with
  | nil => exact .nil
  | cons preset presets ih =>
      obtain ⟨givenFirst, given⟩ := List.forall_mem_cons.mp given
      have onceNext := once.rewriteExports preset routeId
      refine .cons (fun later turn => ?_) (ih given onceNext)
      -- The later pass finds what the first one left, rewritten by the passes between them.
      obtain ⟨front, back, split⟩ := List.append_of_mem turn
      obtain ⟨earlier, rest, rfl, before, -⟩ := exists_of_passes_split split
      refine Pass.rewraps givenFirst (given _ (by simp)) once ?_ ?_
      · rw [before]
        exact onceNext.instrument earlier routeId
      · rw [before]
        exact (m.sublist_initials preset routeId).2.trans
          (sublist_initials_instrument _ earlier routeId)

variable (m : Module) (presets : List Preset) (routeId : String)

/-- Presets nest in their order. What a pass wraps, each later pass that recognizes the name wraps
as often, as a constant, and in the same order; in the end the name is exported with what was
wrapped first, inside the calls of the passes that recognize it. -/
theorem instrument_nests (exportedOnce : m.exportedValues.Nodup)
    (unmarked : ∀ preset ∈ presets, ∀ g ∈ preset.groups, ∀ n ∈ g.exports, isMarked n = false) :
    (m.instrument presets routeId).2.wrapped =
        (m.passes routeId presets).flatMap (fun p => (p.report routeId).wrapped) ∧
      (∀ p ∈ m.passes routeId presets,
        (p.report routeId).wrapped = (p.wrappings routeId).map Wrapping.entry ∧
          List.Forall₂ (p.before.Rebuilds p.preset routeId) p.before.items
            (p.before.blocks p.preset routeId)) ∧
      (m.passes routeId presets).Pairwise (Pass.Rewraps routeId) ∧
      ∀ front p back, m.passes routeId presets = front ++ p :: back →
        ∀ w ∈ p.wrappings routeId,
          (∀ value, (w.entry.name, value) ∈ (m.instrument presets routeId).1.initials ↔
            value = nest (.ofString routeId) (Pass.callees w.entry.name (p :: back))
              (back.foldl (fun target later => later.renamed target) w.target)) ∧
          ∀ q ∈ p :: back, q.preset.recognizes w.entry.name →
            (m.instrument presets routeId).1.ImportsWrapper q.preset w.entry.name
              (q.before.localOf q.preset w.entry.name) := by
  have given (preset : Preset) (listed : preset ∈ presets) (n : String)
      (recognized : preset.recognizes n) : isMarked n = false := by
    obtain ⟨g, grouped, lists⟩ := Preset.exists_group_of_recognizes recognized
    exact unmarked preset listed g grouped n lists
  have once : m.ExportsOnce := exportedOnce.filter _
  refine ⟨m.wrapped_instrument presets routeId, fun p _ => ⟨?_, ?_⟩, pairwise_rewraps given once,
    fun front p back split w wraps => ?_⟩
  · exact p.before.wrapped_rewriteExports p.preset routeId
  · exact p.before.rebuilds_blocks p.preset routeId
  obtain ⟨earlier, later, rfl, before, rfl, final⟩ := exists_of_passes_split split
  have reported : w.entry ∈ (p.before.rewriteExports p.preset routeId).2.wrapped := by
    rw [wrapped_rewriteExports]
    exact List.mem_map_of_mem wraps
  have recognized : p.preset.recognizes w.entry.name :=
    recognizes_of_mem_wrapped (List.mem_map_of_mem reported)
  obtain ⟨g, grouped, lists, keeps⟩ := keepsImport_localOf reported
  -- The call that this pass inserts is the innermost one; the later passes nest on from it.
  have constant : (w.entry.name,
      nest (.ofString routeId) [p.before.localOf p.preset w.entry.name] w.target) ∈
        (p.before.rewriteExports p.preset routeId).1.initials := by
    have callee : w.entry.wrapperLocal = p.before.localOf p.preset w.entry.name :=
      congrArg WrappedExport.wrapperLocal (entry_of_mem_wrapped reported)
    rw [← callee]
    exact call_mem_initials wraps
  have kept : ∀ c ∈ [p.before.localOf p.preset w.entry.name],
      ∃ request what,
        (p.before.rewriteExports p.preset routeId).1.KeepsImport c request what := by
    intro c called
    rw [List.mem_singleton.mp called]
    exact ⟨_, _, keeps⟩
  have nested := nest_mem_initials_instrument kept constant later
  have onceEnd := once.instrument (earlier ++ p.preset :: later) routeId
  rw [final] at onceEnd ⊢
  rw [Pass.callees_cons, if_pos recognized]
  refine ⟨fun value => ⟨fun listed => ?_, ?_⟩, fun q turn recognizedQ => ?_⟩
  · exact onceEnd.initial_unique (given _ (by simp) _ recognized) listed nested
  · rintro rfl
    exact nested
  · rcases List.mem_cons.mp turn with rfl | turn
    · exact ⟨g, grouped, lists, (keeps.instrument later routeId).binds⟩
    · exact importsWrapper_instrument constant later q turn recognizedQ

/-- `import { loader } from "./x"; export { loader }; export function action() {}` -/
def exportingBoth : Module :=
  .ofItems
    [importNamed [(.name .none "loader", "loader")] (.ofString "./x"),
     exportNamed [("loader", "loader")] none,
     exportedFunction "action"]

theorem loader_nests_exportingBoth :
    exportingBoth.exportedValues.Nodup ∧
      (∀ preset ∈ [Preset.dataFunctions, .context], ∀ g ∈ preset.groups, ∀ n ∈ g.exports,
        isMarked n = false) ∧
      ("loader",
          nest (.ofString "r") ["withLoaderWrapper", "withLoaderContextWrapper"]
            (.ref .none .value "_loader")) ∈
        (exportingBoth.instrument [.dataFunctions, .context] "r").1.initials := by
  have exportedOnce : exportingBoth.exportedValues.Nodup := by decide
  have unmarked : ∀ preset ∈ [Preset.dataFunctions, .context], ∀ g ∈ preset.groups,
      ∀ n ∈ g.exports, isMarked n = false := by decide
  obtain ⟨-, -, -, nests⟩ :=
    instrument_nests exportingBoth [.dataFunctions, .context] "r" exportedOnce unmarked
  refine ⟨exportedOnce, unmarked, ?_⟩
  refine ((nests [] ⟨exportingBoth, .dataFunctions⟩ _ rfl
    ⟨Preset.dataFunctions.entry "loader" .importReExport "withLoaderWrapper",
      .ref .none .value "_loader"⟩ ?_).1 _).mpr ?_
  · exact List.mem_cons_self
  · rfl

end Module

end RouteWrap
