import Mathlib.Data.List.Nodup
import RouteWrap.Preset

/-!
Presets without a fault. `Preset.faults` lists all that is wrong with a preset, in the order of its
groups and exports, and the check answers with the first of these. The presets that pass are the
consistent ones: their groups name a module and list exports, the names pass the test for
identifiers, and no export is listed twice, so that the group of an export is the one that lists
it, wherever the group stands.
-/

namespace RouteWrap

/-- What `f` gives for each element, told the elements before it. -/
def eachAfter {α β : Type} (f : List α → α → List β) (as : List α) : List β :=
  as.zipIdx.flatMap fun (a, i) => f (as.take i) a

section

variable {α β : Type} (f : List α → α → List β)

@[simp] theorem eachAfter_nil : eachAfter f [] = [] := rfl

@[simp] theorem eachAfter_cons (a : α) (as : List α) :
    eachAfter f (a :: as) = f [] a ++ eachAfter (fun before => f (a :: before)) as := by
  simp [eachAfter, List.zipIdx_succ, List.flatMap_map]

theorem eachAfter_append (as as' : List α) :
    eachAfter f (as ++ as') = eachAfter f as ++ eachAfter (fun before => f (as ++ before)) as' := by
  induction as generalizing f with
  | nil => rfl
  | cons a as ih => simp [ih]

end

namespace Preset

/-- What is wrong with an export that is listed after those in `before`. -/
def exportFaults (naming : WrapperNaming) (before : List String) (e : String) :
    List PresetFault :=
  (if Identifier.isPlainName e then [] else [.invalidExport e]) ++
    (if e ∈ before then [.repeatedExport e] else []) ++
    (if Identifier.isPlainName (naming.wrapperName e) then []
      else [.invalidWrapper (naming.wrapperName e)])

def listFaults (naming : WrapperNaming) (before es : List String) : List PresetFault :=
  eachAfter (fun earlier => exportFaults naming (before ++ earlier)) es

/-- What is wrong with a group that follows groups with the exports in `before`. -/
def groupFaults (naming : WrapperNaming) (before : List String) (g : WrapperGroup) :
    List PresetFault :=
  (if g.runtimePath.toList.any (!Blank.isBlank ·) then [] else [.emptyPath g.name]) ++
    (if g.exports = [] then [.noExports g.name] else []) ++
    listFaults naming before g.exports

/-- All exports that the groups list, in their order. -/
def exports (p : Preset) : List String := p.groups.flatMap WrapperGroup.exports

def faults (p : Preset) : List PresetFault :=
  (if p.groups = [] then [.noGroups] else []) ++
    eachAfter (fun earlier => groupFaults p.naming (earlier.flatMap WrapperGroup.exports)) p.groups

structure Consistent (p : Preset) : Prop where
  grouped : p.groups ≠ []
  located : ∀ g ∈ p.groups, ∃ c ∈ g.runtimePath.toList, Blank.isBlank c = false
  listing : ∀ g ∈ p.groups, g.exports ≠ []
  named : ∀ e ∈ p.exports,
    Identifier.isPlainName e = true ∧ Identifier.isPlainName (p.wrapperName e) = true
  once : p.exports.Nodup

section

variable {naming : WrapperNaming} {seen before : List String}

@[simp] theorem listFaults_nil : listFaults naming before [] = [] := rfl

@[simp] theorem listFaults_cons (e : String) (es : List String) :
    listFaults naming before (e :: es) =
      exportFaults naming before e ++ listFaults naming (before ++ [e]) es := by
  simp [listFaults]

theorem listFaults_append (es es' : List String) :
    listFaults naming before (es ++ es') =
      listFaults naming before es ++ listFaults naming (before ++ es) es' := by
  simp [listFaults, eachAfter_append]

theorem exportFault?_eq_head? {es : List String} (same : ∀ e, e ∈ seen ↔ e ∈ before) :
    exportFault? naming seen es = (listFaults naming before es).head? := by
  induction es generalizing seen before with
  | nil => rfl
  | cons e es ih =>
      have later : exportFault? naming (e :: seen) es =
          (listFaults naming (before ++ [e]) es).head? :=
        ih fun e' => by simp [same, or_comm]
      rw [exportFault?, listFaults_cons, exportFaults, later]
      simp only [List.head?_append]
      split_ifs <;> simp_all

theorem groupFault?_eq_head? {g : WrapperGroup} (same : ∀ e, e ∈ seen ↔ e ∈ before) :
    groupFault? naming seen g = (groupFaults naming before g).head? := by
  have blank : Blank.allBlank g.runtimePath = !g.runtimePath.toList.any (!Blank.isBlank ·) := by
    simp [Blank.allBlank, List.not_any_eq_all_not]
  rw [groupFault?, groupFaults, exportFault?_eq_head? same]
  simp only [blank, List.head?_append, List.isEmpty_iff]
  split_ifs <;> simp_all

theorem groupsFault?_eq_head? {gs : List WrapperGroup} (same : ∀ e, e ∈ seen ↔ e ∈ before) :
    groupsFault? naming seen gs =
      (eachAfter (fun earlier => groupFaults naming
        (before ++ earlier.flatMap WrapperGroup.exports)) gs).head? := by
  induction gs generalizing seen before with
  | nil => rfl
  | cons g gs ih =>
      have later := @ih (g.exports.reverse ++ seen) (before ++ g.exports) fun e => by
        simp [same, or_comm]
      simp only [groupsFault?, later, groupFault?_eq_head? same, eachAfter_cons,
        List.flatMap_nil, List.append_nil, List.flatMap_cons, ← List.append_assoc,
        List.head?_append]
      cases (groupFaults naming before g).head? <;> rfl

theorem exportFaults_eq_nil_iff {e : String} :
    exportFaults naming before e = [] ↔
      (Identifier.isPlainName e = true ∧
        Identifier.isPlainName (naming.wrapperName e) = true) ∧ e ∉ before := by
  rw [exportFaults]
  split_ifs <;> simp_all

theorem listFaults_eq_nil_iff {es : List String} :
    listFaults naming before es = [] ↔
      (∀ e ∈ es, Identifier.isPlainName e = true ∧
        Identifier.isPlainName (naming.wrapperName e) = true) ∧
        es.Nodup ∧ ∀ e ∈ es, e ∉ before := by
  induction es generalizing before with
  | nil => simp
  | cons e es ih =>
      rw [listFaults_cons, List.append_eq_nil_iff, exportFaults_eq_nil_iff, ih,
        List.forall_mem_cons, List.forall_mem_cons, List.nodup_cons]
      constructor
      · rintro ⟨⟨plain, unseen⟩, named, once, apart⟩
        refine ⟨⟨plain, named⟩, ⟨fun again => ?_, once⟩, unseen, fun e' listed => ?_⟩
        · exact apart e again (List.mem_append_right before List.mem_cons_self)
        · exact fun earlier => apart e' listed (List.mem_append_left _ earlier)
      · rintro ⟨⟨plain, named⟩, ⟨single, once⟩, unseen, apart⟩
        refine ⟨⟨plain, unseen⟩, named, once, fun e' listed earlier => ?_⟩
        rcases List.mem_append.mp earlier with earlier | same
        · exact apart e' listed earlier
        · exact single (List.mem_singleton.mp same ▸ listed)

theorem groupFaults_eq_nil_iff {g : WrapperGroup} :
    groupFaults naming before g = [] ↔
      (∃ c ∈ g.runtimePath.toList, Blank.isBlank c = false) ∧ g.exports ≠ [] ∧
        listFaults naming before g.exports = [] := by
  have located : (g.runtimePath.toList.any (!Blank.isBlank ·)) = true ↔
      ∃ c ∈ g.runtimePath.toList, Blank.isBlank c = false := by
    simp
  rw [← located, groupFaults]
  split_ifs <;> simp_all

theorem eachAfter_groupFaults_eq_nil_iff {gs : List WrapperGroup} :
    eachAfter (fun earlier => groupFaults naming
        (before ++ earlier.flatMap WrapperGroup.exports)) gs = [] ↔
      (∀ g ∈ gs, ∃ c ∈ g.runtimePath.toList, Blank.isBlank c = false) ∧
        (∀ g ∈ gs, g.exports ≠ []) ∧
        listFaults naming before (gs.flatMap WrapperGroup.exports) = [] := by
  induction gs generalizing before with
  | nil => simp
  | cons g gs ih =>
      simp only [eachAfter_cons, List.flatMap_nil, List.append_nil, List.flatMap_cons,
        ← List.append_assoc, List.append_eq_nil_iff, groupFaults_eq_nil_iff, ih,
        listFaults_append, List.forall_mem_cons]
      tauto

end

variable {p : Preset} {e : String} {g : WrapperGroup} {i : Nat}

theorem fault?_eq_head? : p.fault? = p.faults.head? := by
  have later := @groupsFault?_eq_head? p.naming [] [] p.groups fun _ => Iff.rfl
  rw [fault?, faults, List.head?_append, later]
  cases p.groups <;> simp

theorem faults_eq_nil_iff : p.faults = [] ↔ p.Consistent := by
  have groups := @eachAfter_groupFaults_eq_nil_iff p.naming [] p.groups
  simp only [List.nil_append] at groups
  rw [faults, List.append_eq_nil_iff, groups, listFaults_eq_nil_iff]
  constructor
  · rintro ⟨grouped, located, listing, named, once, -⟩
    exact ⟨by simpa using grouped, located, listing, named, once⟩
  · rintro ⟨grouped, located, listing, named, once⟩
    exact ⟨if_neg grouped, located, listing, named, once, fun _ _ => List.not_mem_nil⟩

theorem fault?_eq_none_iff : p.fault? = none ↔ p.Consistent := by
  rw [fault?_eq_head?, List.head?_eq_none_iff, faults_eq_nil_iff]

theorem validate_eq_ok_iff : p.validate = .ok () ↔ p.Consistent := by
  rw [← fault?_eq_none_iff, validate]
  cases p.fault? <;> simp

theorem validate_eq_error_iff {f : PresetFault} :
    p.validate = .error f ↔ p.faults.head? = some f := by
  rw [← fault?_eq_head?, validate]
  cases p.fault? <;> simp

theorem nodup_exports (faultless : p.fault? = none) : p.exports.Nodup :=
  (fault?_eq_none_iff.mp faultless).once

theorem groupIndex_eq_some_iff (once : p.exports.Nodup) (placed : (g, i) ∈ p.groups.zipIdx) :
    p.groupIndex e = some i ↔ e ∈ g.exports := by
  have found : p.groups[i]? = some g := List.mem_zipIdx_iff_getElem?.mp placed
  obtain ⟨bounded, rfl⟩ := List.getElem?_eq_some_iff.mp found
  rw [groupIndex, List.findIdx?_eq_some_iff_getElem]
  constructor
  · rintro ⟨_, lists, _⟩
    exact List.contains_iff_mem.mp lists
  · intro lists
    refine ⟨bounded, List.contains_iff_mem.mpr lists, fun j before earlier => ?_⟩
    have apart := List.pairwise_iff_getElem.mp (List.nodup_flatMap.mp once).2 j i
      (Nat.lt_trans before bounded) bounded before
    exact apart (List.contains_iff_mem.mp earlier) lists

/-- The group at a place lists an export. -/
def Handles (p : Preset) (i : Nat) (e : String) : Prop :=
  ∃ g, p.groups[i]? = some g ∧ e ∈ g.exports

/-- The group that an export belongs to. -/
def handler (p : Preset) (e : String) : Option WrapperGroup :=
  (p.groupIndex e).bind (p.groups[·]?)

theorem groupIndex_eq_some_iff_handles (once : p.exports.Nodup) :
    p.groupIndex e = some i ↔ p.Handles i e := by
  constructor
  · intro found
    obtain ⟨bounded, -⟩ := List.findIdx?_eq_some_iff_getElem.mp found
    have placed : (p.groups[i], i) ∈ p.groups.zipIdx :=
      List.mem_zipIdx_iff_getElem?.mpr (List.getElem?_eq_getElem bounded)
    exact ⟨p.groups[i], List.getElem?_eq_getElem bounded,
      (groupIndex_eq_some_iff once placed).mp found⟩
  · rintro ⟨g, placed, lists⟩
    exact (groupIndex_eq_some_iff once (List.mem_zipIdx_iff_getElem?.mpr placed)).mpr lists

theorem handler_eq_some_iff (once : p.exports.Nodup) :
    p.handler e = some g ↔ g ∈ p.groups ∧ e ∈ g.exports := by
  rw [handler, Option.bind_eq_some_iff]
  constructor
  · rintro ⟨i, found, placed⟩
    obtain ⟨g', placed', lists⟩ := (groupIndex_eq_some_iff_handles once).mp found
    cases placed.symm.trans placed'
    exact ⟨List.mem_of_getElem? placed, lists⟩
  · rintro ⟨listed, lists⟩
    obtain ⟨i, placed⟩ := List.mem_iff_getElem?.mp listed
    exact ⟨i, (groupIndex_eq_some_iff_handles once).mpr ⟨g, placed, lists⟩, placed⟩

theorem Consistent.of_perm {q : Preset} (consistent : p.Consistent)
    (naming : q.naming = p.naming) (perm : q.groups.Perm p.groups) : q.Consistent := by
  have exports : q.exports.Perm p.exports := perm.flatMap_right _
  refine ⟨fun none => ?_, fun g listed => ?_, fun g listed => ?_, fun e listed => ?_, ?_⟩
  · exact consistent.grouped (List.perm_nil.mp (none ▸ perm.symm))
  · exact consistent.located g (perm.mem_iff.mp listed)
  · exact consistent.listing g (perm.mem_iff.mp listed)
  · rw [wrapperName, naming]
    exact consistent.named e (exports.mem_iff.mp listed)
  · exact exports.nodup_iff.mpr consistent.once

/-- The check accepts the consistent presets and answers with the first fault of the others. In a
preset that it accepts each export has one group, whatever the order of the groups. -/
theorem validate_consistent (p : Preset) :
    (p.validate = .ok () ↔ p.Consistent) ∧
      (∀ f, p.validate = .error f ↔ p.faults.head? = some f) ∧
      (p.validate = .ok () → ∀ e,
        (∀ i j, p.Handles i e → p.Handles j e → i = j) ∧
          (∀ i, p.groupIndex e = some i ↔ p.Handles i e) ∧
          ∀ q : Preset, q.naming = p.naming → q.groups.Perm p.groups →
            q.validate = .ok () ∧ q.handler e = p.handler e) := by
  refine ⟨validate_eq_ok_iff, fun f => validate_eq_error_iff, fun accepted e => ?_⟩
  have consistent := validate_eq_ok_iff.mp accepted
  have found (i : Nat) : p.groupIndex e = some i ↔ p.Handles i e :=
    groupIndex_eq_some_iff_handles consistent.once
  refine ⟨fun i j first second => ?_, found, fun q naming perm => ?_⟩
  · exact Option.some.inj (((found i).mpr first).symm.trans ((found j).mpr second))
  · have permuted := consistent.of_perm naming perm
    refine ⟨validate_eq_ok_iff.mpr permuted, Option.ext fun g => ?_⟩
    rw [handler_eq_some_iff permuted.once, handler_eq_some_iff consistent.once, perm.mem_iff]

theorem dataFunctions_consistent :
    dataFunctions.validate = .ok () ∧ dataFunctions.Consistent ∧
      dataFunctions.Handles 1 "clientLoader" ∧
      Preset.handler ⟨.standard, dataFunctions.groups.reverse⟩ "clientLoader" =
        dataFunctions.handler "clientLoader" := by
  have accepted : dataFunctions.validate = .ok () := by decide +kernel
  obtain ⟨consistent, -, settled⟩ := validate_consistent dataFunctions
  obtain ⟨-, found, settledOf⟩ := settled accepted "clientLoader"
  refine ⟨accepted, consistent.mp accepted, (found 1).mp (by decide), ?_⟩
  exact (settledOf ⟨.standard, dataFunctions.groups.reverse⟩ rfl (List.reverse_perm _)).2

end Preset

end RouteWrap
