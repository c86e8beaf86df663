import Mathlib.Data.List.Induction
import Mathlib.Data.List.Nodup
import Mathlib.Data.Option.Defs
import RouteWrap.Config

/-!
Layers of settings. Under a name, the layers show the topmost of the settings that they have for it,
or a table of what several of them have; and so do the entries of such a table.
-/

namespace RouteWrap

namespace Entries

variable {α : Type}

theorem get?_cons (e : String × α) (es : Entries α) (name : String) :
    get? (e :: es) name = if e.1 = name then some e.2 else get? es name := by
  rw [get?, List.find?_cons]
  by_cases same : e.1 = name
  · simp [same]
  · rw [beq_false_of_ne same, if_neg same]
    rfl

theorem get?_eq_none_iff {es : Entries α} {name : String} :
    get? es name = none ↔ name ∉ es.map Prod.fst := by
  simp only [get?, Option.map_eq_none_iff, List.find?_eq_none, beq_iff_eq, List.mem_map, not_exists,
    not_and]

theorem get?_put (name other : String) (a : α) (es : Entries α) :
    get? (put name a es) other = if other = name then some a else get? es other := by
  split
  next same => rw [same, get?_put_self]
  next different => exact get?_put_of_ne different a es

theorem keys_put (name : String) (a : α) (es : Entries α) :
    (put name a es).map Prod.fst =
      if name ∈ es.map Prod.fst then es.map Prod.fst else es.map Prod.fst ++ [name] := by
  induction es with
  | nil => rfl
  | cons e rest ih =>
      by_cases same : e.1 = name
      · simp [put, same]
      · simp only [put, beq_iff_eq, same, if_false, List.map_cons, ih, List.mem_cons,
          Ne.symm same, false_or]
        split <;> rfl

theorem nodup_put {name : String} {a : α} {es : Entries α} (distinct : (es.map Prod.fst).Nodup) :
    ((put name a es).map Prod.fst).Nodup := by
  rw [keys_put]
  split
  next => exact distinct
  next new => exact List.concat_eq_append ▸ distinct.concat new

end Entries

namespace Setting

/-- A setting with what there may be under it. -/
def atop (s : Setting) : Option Setting → Setting
  | none => s
  | some lower => s.onto lower

theorem ontoEntries_cons (name : String) (s : Setting) (upper lower : Settings) :
    ontoEntries ((name, s) :: upper) lower =
      ontoEntries upper (Entries.put name (s.atop (lower.get? name)) lower) := by
  rw [ontoEntries]
  cases Entries.get? lower name <;> rfl

theorem get?_ontoEntries {upper : Settings} (distinct : (upper.map Prod.fst).Nodup)
    (lower : Settings) (name : String) :
    Entries.get? (ontoEntries upper lower) name =
      match upper.get? name with
      | none => lower.get? name
      | some s => some (s.atop (lower.get? name)) := by
  induction upper generalizing lower with
  | nil => simp [ontoEntries, Entries.get?]
  | cons e upper ih =>
      obtain ⟨name', s⟩ := e
      rw [List.map_cons, List.nodup_cons] at distinct
      rw [ontoEntries_cons, ih distinct.2, Entries.get?_put, Entries.get?_cons]
      by_cases same : name = name'
      · subst same
        rw [Entries.get?_eq_none_iff.mpr distinct.1]
        simp
      · simp only [same, if_false, Ne.symm same]

theorem nodup_ontoEntries (upper : Settings) {lower : Settings}
    (distinct : (lower.map Prod.fst).Nodup) :
    ((ontoEntries upper lower).map Prod.fst).Nodup := by
  induction upper generalizing lower with
  | nil => rwa [ontoEntries]
  | cons e upper ih =>
      rw [ontoEntries_cons]
      exact ih (Entries.nodup_put distinct)

def isTable : Setting → Bool
  | table .. => true
  | plain .. => false

/-- The setting under a name of a table. -/
def child? : Setting → String → Option Setting
  | table _ entries, name => Entries.get? entries name
  | plain .., _ => none

@[simp] theorem child?_table (source : Source) (entries : Settings) (name : String) :
    (table source entries).child? name = entries.get? name := rfl

@[simp] theorem plain_atop (source : Source) (d : Data) (lower : Option Setting) :
    (plain source d).atop lower = plain source d := by
  cases lower <;> rfl

/-- The names of a table are distinct. -/
def Distinct : Setting → Prop
  | table _ entries => (entries.map Prod.fst).Nodup
  | plain .. => True

theorem Distinct.atop {s : Setting} (distinct : s.Distinct) {lower : Option Setting}
    (distinct' : ∀ l ∈ lower, l.Distinct) : (s.atop lower).Distinct := by
  cases lower with
  | none => exact distinct
  | some l =>
      cases s with
      | plain source d => cases l <;> exact distinct
      | table source upper =>
          cases l with
          | plain source' d => exact distinct
          | table source' lower => exact nodup_ontoEntries upper (distinct' _ rfl)

theorem child?_atop {source : Source} {upper : Settings} (distinct : (upper.map Prod.fst).Nodup)
    (lower : Option Setting) (name : String) :
    ((table source upper).atop lower).child? name =
      match upper.get? name with
      | none => lower.bind (child? · name)
      | some s => some (s.atop (lower.bind (child? · name))) := by
  cases lower with
  | none => cases found : upper.get? name <;> simp [atop, child?, found]
  | some l =>
      cases l with
      | plain source' d => cases found : upper.get? name <;> simp [atop, onto, child?, found]
      | table source' lower => simp [atop, onto, child?, get?_ontoEntries distinct]

/-- What is shown of a setting that others may lie under: the setting, or some table for a table. -/
inductive Shown : Setting → Setting → Prop
  | same (s : Setting) : Shown s s
  | table (source source' : Source) (entries entries' : List (String × Setting)) :
      Shown (table source entries) (table source' entries')

theorem shown_atop (s : Setting) (lower : Option Setting) : Shown s (s.atop lower) := by
  cases lower with
  | none => exact .same s
  | some l =>
      cases s with
      | plain source d => cases l <;> exact .same _
      | table source upper => cases l <;> exact .table ..

theorem Shown.trans {r s t : Setting} (first : Shown r s) (second : Shown s t) : Shown r t := by
  cases first with
  | same => exact second
  | table => cases second <;> exact .table ..

/-- Layers, the topmost first, put together. -/
def stack : List Setting → Option Setting
  | [] => none
  | top :: rest => some (top.atop (stack rest))

theorem distinct_stack {layers : List Setting} (distinct : ∀ s ∈ layers, s.Distinct) :
    ∀ s ∈ stack layers, s.Distinct := by
  induction layers with
  | nil => exact nofun
  | cons top rest ih =>
      rintro s ⟨⟩
      exact (distinct top (.head _)).atop (ih fun s listed => distinct s (.tail _ listed))

theorem rel_shown_refl (s : Option Setting) : Option.Rel Shown s s := by
  cases s with
  | none => exact .none
  | some s => exact .some (.same s)

/-- A name of the tables above all else is shown as the topmost of them have it. -/
theorem shown_child_stack {layers : List Setting} (distinct : ∀ s ∈ layers, s.Distinct)
    (name : String) :
    Option.Rel Shown ((layers.takeWhile isTable).findSome? (child? · name))
      ((stack layers).bind (child? · name)) := by
  induction layers with
  | nil => exact .none
  | cons top rest ih =>
      have ih := ih fun s listed => distinct s (.tail _ listed)
      rw [stack, Option.bind_some]
      cases top with
      | plain source d =>
          rw [plain_atop]
          exact .none
      | table source upper =>
          rw [child?_atop (distinct _ (.head _)), List.takeWhile_cons_of_pos rfl,
            List.findSome?_cons, child?_table]
          cases Entries.get? upper name with
          | none => exact ih
          | some s => exact .some (shown_atop s _)

end Setting

/-! What variables set -/

namespace Variable

/-- The names of a table that is read from a variable are distinct. -/
def Distinct : Data → Prop
  | .table entries => (entries.map Prod.fst).Nodup
  | _ => True

theorem nodup_foldl_put (pairs : List (String × Data)) {es : Entries Data}
    (distinct : (es.map Prod.fst).Nodup) :
    ((pairs.foldl (fun es (k, d) => Entries.put k d es) es).map Prod.fst).Nodup := by
  induction pairs generalizing es with
  | nil => exact distinct
  | cons pair pairs ih => exact ih (Entries.nodup_put distinct)

theorem distinct_bare (cs : List Char) : Distinct (bare cs) := by
  unfold bare
  dsimp only
  split
  next d found =>
    split at found
    · obtain ⟨x, -, rfl⟩ := Option.map_eq_some_iff.mp found
      trivial
    · cases found
  next =>
    split
    next => split <;> trivial
    next =>
      split
      next =>
        split
        · trivial
        · split
          · split <;> trivial
          · trivial
      next => trivial

theorem exists_of_bind {r : Reader α} {f : α → Reader β} {cs rest : List Char} {b : β}
    (read : (r >>= f).run cs = some (b, rest)) :
    ∃ a cs', r.run cs = some (a, cs') ∧ (f a).run cs' = some (b, rest) := by
  rw [StateT.run_bind] at read
  obtain ⟨⟨a, cs'⟩, first, next⟩ := Option.bind_eq_some_iff.mp read
  exact ⟨a, cs', first, next⟩

theorem exists_of_spaced {r : Reader α} {cs rest : List Char} {a : α}
    (read : (spaced r).run cs = some (a, rest)) :
    ∃ cs' rest', r.run cs' = some (a, rest') := by
  rw [spaced] at read
  obtain ⟨-, cs', -, read⟩ := exists_of_bind read
  obtain ⟨b, rest', read, last⟩ := exists_of_bind read
  obtain ⟨-, cs'', -, last⟩ := exists_of_bind last
  cases last
  exact ⟨cs', rest', read⟩

theorem distinct_value {n : Nat} {cs rest : List Char} {d : Data}
    (read : (value n).run cs = some (d, rest)) : Distinct d := by
  cases n with
  | zero => cases read
  | succ n =>
      rw [value] at read
      obtain ⟨cs', rest', read⟩ := exists_of_spaced read
      obtain ⟨here, cs'', at_, read⟩ := exists_of_bind read
      cases at_
      split at read
      next => cases read; trivial
      next => cases read; trivial
      next =>
        obtain ⟨-, cs, -, read⟩ := exists_of_bind read
        obtain ⟨pairs, cs', -, last⟩ := exists_of_bind read
        cases last
        exact nodup_foldl_put pairs .nil
      next =>
        obtain ⟨-, cs, -, read⟩ := exists_of_bind read
        obtain ⟨ds, cs', -, last⟩ := exists_of_bind read
        cases last
        trivial
      next =>
        obtain ⟨t, cs, -, last⟩ := exists_of_bind read
        cases last
        trivial
      next => cases read; trivial
      next => cases read
      next =>
        obtain ⟨word, cs, -, last⟩ := exists_of_bind read
        cases last
        exact distinct_bare _

theorem distinct_parse (s : String) : Distinct (parse s) := by
  rw [parse]
  split
  next d read => exact distinct_value read
  next => trivial

end Variable

namespace Setting

theorem keys_ofEntries (source : Source) (es : Entries Data) :
    (ofEntries source es).map Prod.fst = es.map Prod.fst := by
  induction es with
  | nil => rfl
  | cons e es ih => rw [ofEntries, List.map_cons, List.map_cons, ih]

theorem distinct_ofData {source : Source} {d : Data} (distinct : Variable.Distinct d) :
    (ofData source d).Distinct := by
  cases d with
  | table es =>
      rw [ofData, Distinct, keys_ofEntries]
      exact distinct
  | text | character | boolean | integer | float | list => trivial

end Setting

namespace Variable

theorem distinct_nest (names : List String) (value : String) :
    (nest names (.ofData .environment (parse value))).Distinct := by
  cases names with
  | nil => exact Setting.distinct_ofData (distinct_parse value)
  | cons name names => exact List.nodup_singleton name

theorem nodup_settings (name value : String) : ((settings name value).map Prod.fst).Nodup := by
  rw [settings]
  split
  next => exact List.nodup_singleton _
  next => exact .nil

theorem distinct_of_get? {name value key : String} {s : Setting}
    (found : (settings name value).get? key = some s) : s.Distinct := by
  rw [settings] at found
  split at found
  next first names _ =>
    rw [Entries.get?_cons] at found
    split at found
    · cases found
      exact distinct_nest names value
    · cases found
  next => cases found

end Variable

namespace Environment

/-- What the variables say of a key, the last one first. -/
def values (env : Environment) (key : String) : List Setting :=
  env.reverse.filterMap fun e => (Variable.settings e.1 e.2).get? key

theorem settings_concat (env : Environment) (name value : String) :
    Environment.settings (env ++ [(name, value)]) =
      Setting.ontoEntries (Variable.settings name value) env.settings := by
  rw [settings, List.foldl_append]
  rfl

theorem values_concat (env : Environment) (name value key : String) :
    values (env ++ [(name, value)]) key =
      ((Variable.settings name value).get? key).toList ++ env.values key := by
  rw [values, List.reverse_append, List.reverse_singleton, List.singleton_append,
    List.filterMap_cons]
  cases (Variable.settings name value).get? key <;> rfl

theorem nodup_settings (env : Environment) : (env.settings.map Prod.fst).Nodup := by
  induction env using List.reverseRecOn with
  | nil => exact .nil
  | append_singleton env e ih =>
      rw [settings_concat]
      exact Setting.nodup_ontoEntries _ ih

theorem get?_settings (env : Environment) (key : String) :
    env.settings.get? key = Setting.stack (env.values key) := by
  induction env using List.reverseRecOn with
  | nil => rfl
  | append_singleton env e ih =>
      obtain ⟨name, value⟩ := e
      rw [settings_concat, Setting.get?_ontoEntries (Variable.nodup_settings name value), ih,
        values_concat]
      cases (Variable.settings name value).get? key <;> rfl

theorem distinct_values (env : Environment) (key : String) :
    ∀ s ∈ env.values key, s.Distinct := by
  intro s listed
  obtain ⟨⟨name, value⟩, -, found⟩ := List.mem_filterMap.mp listed
  exact Variable.distinct_of_get? found

variable (env : Environment) (file : Settings)

theorem shown_layers (key : String) :
    Option.Rel Setting.Shown (env.values key ++ (file.get? key).toList).head?
      (Entries.get? (Setting.ontoEntries env.settings file) key) := by
  rw [Setting.get?_ontoEntries env.nodup_settings, get?_settings]
  cases env.values key with
  | nil => simpa [Setting.stack] using Setting.rel_shown_refl (file.get? key)
  | cons top rest =>
      exact .some ((Setting.shown_atop top _).trans (Setting.shown_atop _ _))

/-- A name of a table is shown as the variables have it that say something of the table after the
last one to say something else of it, or else as the file has it. -/
theorem shown_child_layers {key : String} {s : Setting}
    (found : Entries.get? (Setting.ontoEntries env.settings file) key = some s)
    (table : s.isTable) (name : String) :
    Option.Rel Setting.Shown
      (((env.values key).takeWhile Setting.isTable ++ (file.get? key).toList).findSome?
        (Setting.child? · name)) (s.child? name) := by
  have shown := Setting.shown_child_stack (env.distinct_values key) name
  have distinct := Setting.distinct_stack (env.distinct_values key)
  have own : (file.get? key).toList.findSome? (Setting.child? · name) =
      (file.get? key).bind (Setting.child? · name) := by
    cases file.get? key <;> simp
  rw [Setting.get?_ontoEntries env.nodup_settings, get?_settings] at found
  rw [List.findSome?_append, own]
  cases stacked : Setting.stack (env.values key) with
  | none =>
      rw [stacked] at found shown
      simp only at found
      generalize List.findSome? _ _ = upper at shown ⊢
      cases shown
      rw [found]
      exact Setting.rel_shown_refl _
  | some upper =>
      rw [stacked] at found shown
      cases found
      cases upper with
      | plain source d => simp [Setting.isTable] at table
      | table source entries =>
          rw [Setting.child?_atop (distinct _ stacked)]
          rw [Option.bind_some, Setting.child?_table] at shown
          generalize List.findSome? _ _ = first at shown ⊢
          generalize Entries.get? entries name = second at shown ⊢
          cases shown with
          | none => exact Setting.rel_shown_refl _
          | some shown => exact .some (shown.trans (Setting.shown_atop _ _))

end Environment

end RouteWrap
