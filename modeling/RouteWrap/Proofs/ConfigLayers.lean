import RouteWrap.Proofs.Answers
import RouteWrap.Proofs.DiskRuns
import RouteWrap.Proofs.SettingLayers

/-!
The configuration in effect, key by key. A key has the value of a flag, or of the last variable that
sets it, or of the file, or the standard one; the two parts of the naming have theirs apart, as long
as the naming is given by tables.
-/

namespace RouteWrap

namespace Setting

variable {α : Type} {decode : Setting → Decoded α}

/-- Nothing is read from tables. -/
def Flat (decode : Setting → Decoded α) : Prop :=
  ∀ source entries a, decode (.table source entries) ≠ .ok a

theorem flat_toText : Flat toText := fun _ _ _ => nofun

theorem flat_toBool : Flat toBool := fun _ _ _ => nofun

theorem flat_toList (item : Setting → Decoded α) : Flat (toList item) := fun _ _ _ => nofun

theorem flat_toChoice (named : List (String × α)) (wanted : Wanted) :
    Flat (toChoice named wanted) := by
  intro source entries a read
  rw [toChoice] at read
  split at read
  next => cases read
  next name inner _ =>
    split at read <;> cases read

theorem Shown.reads (flat : Flat decode) {s t : Setting} (shown : Shown s t) {a : α}
    (read : decode t = .ok a) : decode s = .ok a := by
  cases shown with
  | same => exact read
  | table source source' entries entries' => exact absurd read (flat source' entries' a)

/-- The value that a setting has, or the standard one if there is none. -/
def Gives (decode : Setting → Decoded α) (standard : α) : Option Setting → α → Prop
  | none, a => a = standard
  | some s, a => decode s = .ok a

theorem Gives.unique {standard a b : α} {s : Option Setting} (first : Gives decode standard s a)
    (second : Gives decode standard s b) : a = b := by
  cases s with
  | none => exact first.trans second.symm
  | some s => exact Except.ok.inj (first.symm.trans second)

/-- The value of a flag, if that is given. -/
def GivesUnder (flag : Option α) (decode : Setting → Decoded α) (standard : α)
    (s : Option Setting) (a : α) : Prop :=
  match flag with
  | some b => a = b
  | none => Gives decode standard s a

theorem GivesUnder.unique {flag : Option α} {standard a b : α} {s : Option Setting}
    (first : GivesUnder flag decode standard s a) (second : GivesUnder flag decode standard s b) :
    a = b := by
  cases flag with
  | some c => exact Eq.trans first (Eq.symm second)
  | none => exact Gives.unique first second

theorem Gives.of_shown (flat : Flat decode) {standard a : α} {s t : Option Setting}
    (shown : Option.Rel Shown s t) (given : Gives decode standard t a) :
    Gives decode standard s a := by
  cases shown with
  | none => exact given
  | some shown => exact shown.reads flat given

theorem under_eq_ok_iff {name : String} {x : Decoded α} {a : α} :
    under name x = .ok a ↔ x = .ok a := by
  cases x with
  | error f => exact ⟨nofun, nofun⟩
  | ok b => exact Iff.rfl

/-- A field is not there, or it is one that can be read. -/
theorem field_cases {entries : Settings} {name : String} {field : Option α}
    (read : field? decode entries name = .ok field) :
    (field = none ∧ entries.get? name = none) ∨
      ∃ a s, field = some a ∧ entries.get? name = some s ∧ decode s = .ok a := by
  rw [field?] at read
  cases own : entries.get? name with
  | none =>
      rw [own] at read
      cases read
      exact .inl ⟨rfl, rfl⟩
  | some s =>
      rw [own] at read
      obtain ⟨a, decoded, rfl⟩ := map_eq_ok_iff.mp (under_eq_ok_iff.mp read)
      exact .inr ⟨a, s, rfl, rfl, decoded⟩

theorem gives_of_fieldOr {entries : Settings} {name : String} {standard a : α}
    (read : fieldOr decode entries name standard = .ok a) :
    Gives decode standard (entries.get? name) a := by
  obtain ⟨field, found, rfl⟩ := map_eq_ok_iff.mp read
  obtain ⟨rfl, own⟩ | ⟨a, s, rfl, own, decoded⟩ := field_cases found
  · rw [own]
    rfl
  · rw [own]
    exact decoded

theorem toListFrom_cons {item : Setting → Decoded α} {source : Source} {n : Nat} {d : Data}
    {ds : List Data} {as : List α} (read : toListFrom item source n (d :: ds) = .ok as) :
    ∃ a rest, as = a :: rest ∧ item (.ofData source d) = .ok a ∧
      toListFrom item source (n + 1) ds = .ok rest := by
  obtain ⟨a, first, read⟩ := bind_eq_ok_iff.mp read
  obtain ⟨rest, next, last⟩ := bind_eq_ok_iff.mp read
  cases last
  exact ⟨a, rest, rfl, under_eq_ok_iff.mp first, next⟩

/-- A list has the two parts of the naming in their order. -/
theorem gives_of_listedNaming {source : Source} {ds : List Data} {n : WrapperNaming}
    (read : toNaming (.plain source (.list ds)) = .ok n) :
    Gives toText "with" (ds[0]?.map (ofData source)) n.before ∧
      Gives toText "Wrapper" (ds[1]?.map (ofData source)) n.after := by
  obtain ⟨texts, listed, last⟩ := bind_eq_ok_iff.mp read
  cases ds with
  | nil =>
      cases listed
      cases last
      exact ⟨rfl, rfl⟩
  | cons d ds =>
      obtain ⟨before, rest, rfl, first, listed⟩ := toListFrom_cons listed
      cases ds with
      | nil =>
          cases listed
          cases last
          exact ⟨first, rfl⟩
      | cons d' ds =>
          obtain ⟨after, rest, rfl, second, listed⟩ := toListFrom_cons listed
          cases listed
          cases last
          exact ⟨first, second⟩

end Setting

inductive Config.Key
  | preset
  | naming
  | groups
  | injectContext
  | quoteStyle
  | minify
deriving DecidableEq, Repr, Inhabited

namespace Config

def Key.name : Key → String
  | preset => "preset"
  | naming => "naming"
  | groups => "groups"
  | injectContext => "inject_context"
  | quoteStyle => "quote_style"
  | minify => "minify"

def SameAt (c c' : Config) : Key → Prop
  | .preset => c.preset = c'.preset
  | .naming => c.naming = c'.naming
  | .groups => c.groups = c'.groups
  | .injectContext => c.injectContext = c'.injectContext
  | .quoteStyle => c.quote = c'.quote
  | .minify => c.minify = c'.minify

/-- Nothing but the six keys is looked up. -/
theorem ofSettings_congr {entries entries' : Settings}
    (same : ∀ k : Key, entries.get? k.name = entries'.get? k.name) :
    ofSettings entries = ofSettings entries' := by
  have field {α : Type} (decode : Setting → Setting.Decoded α) {name : String}
      (same : entries.get? name = entries'.get? name) :
      Setting.field? decode entries name = Setting.field? decode entries' name := by
    rw [Setting.field?, Setting.field?, same]
  have groups : entries.get? "groups" = entries'.get? "groups" := same .groups
  have injectContext : entries.get? "inject_context" = entries'.get? "inject_context" :=
    same .injectContext
  have minify : entries.get? "minify" = entries'.get? "minify" := same .minify
  have naming : entries.get? "naming" = entries'.get? "naming" := same .naming
  have preset : entries.get? "preset" = entries'.get? "preset" := same .preset
  have quoteStyle : entries.get? "quote_style" = entries'.get? "quote_style" := same .quoteStyle
  simp only [ofSettings, Setting.fieldOr, field _ groups, field _ injectContext, field _ minify,
    field _ naming, field _ preset, field _ quoteStyle]

/-- The settings that make a configuration have what it has under each key. -/
theorem fields_of_ofSettings {entries : Settings} {c : Config}
    (made : ofSettings entries = .ok c) :
    Setting.fieldOr Setting.toPresetKind entries "preset" .dataFunctions = .ok c.preset ∧
      Setting.field? Setting.toNaming entries "naming" = .ok c.naming ∧
      Setting.fieldOr (Setting.toList Setting.toGroup) entries "groups" [] = .ok c.groups ∧
      Setting.fieldOr Setting.toBool entries "inject_context" false = .ok c.injectContext ∧
      Setting.fieldOr Setting.toQuoteStyle entries "quote_style" .double = .ok c.quote ∧
      Setting.fieldOr Setting.toBool entries "minify" false = .ok c.minify := by
  obtain ⟨groups, one, rest⟩ := bind_eq_ok_iff.mp made
  obtain ⟨injectContext, two, rest⟩ := bind_eq_ok_iff.mp rest
  obtain ⟨minify, three, rest⟩ := bind_eq_ok_iff.mp rest
  obtain ⟨naming, four, rest⟩ := bind_eq_ok_iff.mp rest
  obtain ⟨preset, five, rest⟩ := bind_eq_ok_iff.mp rest
  obtain ⟨quote, six, rest⟩ := bind_eq_ok_iff.mp rest
  cases rest
  exact ⟨five, four, one, two, six, three⟩

end Config

/-- Where the configuration comes from: the flags of the command, the variables and the file. -/
structure Sources where
  arguments : InstrumentArguments
  environment : Environment
  file : Settings

namespace Sources

open Setting

/-- What the variables and the file say of a key, the last variable first. -/
def layers (s : Sources) (k : Config.Key) : List Setting :=
  s.environment.values k.name ++ (s.file.get? k.name).toList

/-- A part of the naming as the tables of variables and file have it, the last variable first;
variables before one that says something else of the naming do not count. -/
def part? (s : Sources) (name : String) : Option Setting :=
  ((s.environment.values "naming").takeWhile isTable ++ (s.file.get? "naming").toList).findSome?
    (child? · name)

/-- The naming that the sources give. A list gives both parts at once. -/
def Names (s : Sources) (n : WrapperNaming) : Prop :=
  match (s.layers .naming).head? with
  | some (.table ..) =>
      Gives toText "with" (s.part? "prefix") n.before ∧
        Gives toText "Wrapper" (s.part? "suffix") n.after
  | some (.plain source (.list ds)) =>
      Gives toText "with" (ds[0]?.map (ofData source)) n.before ∧
        Gives toText "Wrapper" (ds[1]?.map (ofData source)) n.after
  | _ => False

/-- The configuration that the sources give. -/
structure Resolve (s : Sources) (c : Config) : Prop where
  preset : GivesUnder (s.arguments.preset.map PresetChoice.kind) toPresetKind .dataFunctions
    (s.layers .preset).head? c.preset
  groups : Gives (toList toGroup) [] (s.layers .groups).head? c.groups
  injectContext : Gives toBool false (s.layers .injectContext).head? c.injectContext
  quote : GivesUnder (if s.arguments.singleQuote then some .single else none) toQuoteStyle .double
    (s.layers .quoteStyle).head? c.quote
  minify : GivesUnder (if s.arguments.minify then some true else none) toBool false
    (s.layers .minify).head? c.minify
  unnamed : c.naming = none ↔ s.layers .naming = []
  named : ∀ n, c.naming = some n → s.Names n

/-- The sources say the same of a key. -/
def SameAt (s s' : Sources) (k : Config.Key) : Prop :=
  s.environment.values k.name = s'.environment.values k.name ∧
    s.file.get? k.name = s'.file.get? k.name ∧
    match k with
    | .preset => s.arguments.preset = s'.arguments.preset
    | .quoteStyle => s.arguments.singleQuote = s'.arguments.singleQuote
    | .minify => s.arguments.minify = s'.arguments.minify
    | .naming | .groups | .injectContext => True

variable {s s' : Sources} {c c' : Config}

theorem SameAt.layers_eq {k : Config.Key} (same : s.SameAt s' k) : s.layers k = s'.layers k := by
  rw [layers, layers, same.1, same.2.1]

theorem Names.unique {n n' : WrapperNaming} (same : s.SameAt s' .naming) (first : s.Names n)
    (second : s'.Names n') : n = n' := by
  have parts (name : String) : s.part? name = s'.part? name := by
    have values : s.environment.values "naming" = s'.environment.values "naming" := same.1
    have file : s.file.get? "naming" = s'.file.get? "naming" := same.2.1
    rw [part?, part?, values, file]
  rw [Names, ← same.layers_eq] at second
  rw [Names] at first
  have both (before : n.before = n'.before) (after : n.after = n'.after) : n = n' := by
    cases n
    cases n'
    rw [WrapperNaming.mk.injEq]
    exact ⟨before, after⟩
  split at first
  next top =>
    simp only [top, ← parts] at second
    exact both (first.1.unique second.1) (first.2.unique second.2)
  next top =>
    simp only [top] at second
    exact both (first.1.unique second.1) (first.2.unique second.2)
  next => exact first.elim

/-- Sources that say the same of a key give it the same value. -/
theorem Resolve.sameAt {k : Config.Key} (resolve : s.Resolve c) (resolve' : s'.Resolve c')
    (same : s.SameAt s' k) : c.SameAt c' k := by
  have layers := same.layers_eq
  cases k with
  | preset =>
      have second := resolve'.preset
      rw [← same.2.2, ← layers] at second
      exact resolve.preset.unique second
  | groups => exact resolve.groups.unique (layers ▸ resolve'.groups)
  | injectContext => exact resolve.injectContext.unique (layers ▸ resolve'.injectContext)
  | quoteStyle =>
      have second := resolve'.quote
      rw [← same.2.2, ← layers] at second
      exact resolve.quote.unique second
  | minify =>
      have second := resolve'.minify
      rw [← same.2.2, ← layers] at second
      exact resolve.minify.unique second
  | naming =>
      rw [Config.SameAt]
      cases named : c.naming with
      | none => exact (resolve'.unnamed.mpr (layers ▸ resolve.unnamed.mp named)).symm
      | some n =>
          cases named' : c'.naming with
          | none =>
              rw [resolve.unnamed.mpr (layers ▸ resolve'.unnamed.mp named')] at named
              cases named
          | some n' =>
              exact congrArg some
                ((resolve.named n named).unique same (resolve'.named n' named'))

theorem shown_layers (s : Sources) (k : Config.Key) :
    Option.Rel Shown (s.layers k).head?
      (Entries.get? (ontoEntries s.environment.settings s.file) k.name) :=
  s.environment.shown_layers s.file k.name

theorem gives_layers {s : Sources} {k : Config.Key} {decode : Setting → Decoded α}
    (flat : Flat decode) {standard a : α}
    (read : fieldOr decode (ontoEntries s.environment.settings s.file) k.name standard = .ok a) :
    Gives decode standard (s.layers k).head? a :=
  (gives_of_fieldOr read).of_shown flat (s.shown_layers k)

theorem names_of_toNaming {top : Setting} {n : WrapperNaming}
    (found : Entries.get? (ontoEntries s.environment.settings s.file) "naming" = some top)
    (read : toNaming top = .ok n) : s.Names n := by
  have shown := s.shown_layers .naming
  rw [Config.Key.name, found] at shown
  rw [Names]
  generalize (s.layers .naming).head? = first at shown ⊢
  cases top with
  | plain source d =>
      cases shown with
      | some shown =>
          cases shown
          cases d with
          | list ds => exact gives_of_listedNaming read
          | text | character | boolean | integer | float | table => cases read
  | table source entries =>
      obtain ⟨before, one, rest⟩ := bind_eq_ok_iff.mp read
      obtain ⟨after, two, last⟩ := bind_eq_ok_iff.mp rest
      cases last
      have parts := s.environment.shown_child_layers s.file found rfl
      have both := And.intro ((gives_of_fieldOr one).of_shown flat_toText (parts "prefix"))
        ((gives_of_fieldOr two).of_shown flat_toText (parts "suffix"))
      cases shown with
      | some shown => cases shown <;> exact both

/-- What the variables set over the file, with the flags over both. -/
theorem resolve_of_layered {s : Sources} (made : Config.layered s.file s.environment = .ok c) :
    s.Resolve (s.arguments.adjust
      { c with preset := (s.arguments.preset.map PresetChoice.kind).getD c.preset }) := by
  obtain ⟨preset, naming, groups, injectContext, quote, minify⟩ := Config.fields_of_ofSettings made
  constructor
  case preset =>
    cases s.arguments.preset with
    | some p => rfl
    | none => exact gives_layers (flat_toChoice _ _) (k := .preset) preset
  case groups => exact gives_layers (flat_toList _) (k := .groups) groups
  case injectContext => exact gives_layers flat_toBool (k := .injectContext) injectContext
  case quote =>
    rw [InstrumentArguments.adjust]
    cases s.arguments.singleQuote with
    | true => rfl
    | false => exact gives_layers (flat_toChoice _ _) (k := .quoteStyle) quote
  case minify =>
    rw [InstrumentArguments.adjust]
    cases s.arguments.minify with
    | true => rfl
    | false => exact gives_layers flat_toBool (k := .minify) minify
  case unnamed =>
    have shown := s.shown_layers .naming
    rw [Config.Key.name] at shown
    change c.naming = none ↔ _
    rw [← List.head?_eq_none_iff]
    generalize (s.layers .naming).head? = top at shown ⊢
    obtain ⟨absent, own⟩ | ⟨n, t, present, own, -⟩ := field_cases naming
    · rw [own] at shown
      cases shown
      exact ⟨fun _ => rfl, fun _ => absent⟩
    · rw [own] at shown
      cases shown
      refine ⟨fun absent => ?_, nofun⟩
      cases present.symm.trans absent
  case named =>
    intro n found
    obtain ⟨absent, -⟩ | ⟨n', top, present, own, read⟩ := field_cases naming
    · cases absent.symm.trans found
    · cases present.symm.trans found
      exact names_of_toNaming own read

end Sources

namespace Config

/-- Settings of files and variables that agree on the six keys make the same configuration. -/
theorem layered_congr {file file' : Settings} {env env' : Environment}
    (same : ∀ k : Key, env.values k.name = env'.values k.name ∧
      file.get? k.name = file'.get? k.name) :
    layered file env = layered file' env' := by
  refine ofSettings_congr fun k => ?_
  rw [Setting.get?_ontoEntries env.nodup_settings, Setting.get?_ontoEntries env'.nodup_settings,
    env.get?_settings, env'.get?_settings, (same k).1, (same k).2]

end Config

namespace Disk

variable {d : Disk} {working : List String} {env : Environment} {file : Option String}

theorem config_eq_ok_iff {preset : Option PresetChoice} {c : Config} :
    d.config working env file preset = .ok c ↔
      ∃ settings c', d.settings working file = .ok settings ∧
        Config.layered settings env = .ok c' ∧
        c = { c' with preset := (preset.map PresetChoice.kind).getD c'.preset } := by
  constructor
  · intro loads
    obtain ⟨c', loaded, last⟩ := bind_eq_ok_iff.mp loads
    obtain ⟨settings, read, layered⟩ := bind_eq_ok_iff.mp (mapError_eq_ok_iff.mp loaded)
    cases last
    exact ⟨settings, c', read, layered, rfl⟩
  · rintro ⟨settings, c', read, layered, rfl⟩
    have loaded : d.loaded working env file = .ok c' := bind_eq_ok_iff.mpr ⟨settings, read, layered⟩
    exact bind_eq_ok_iff.mpr ⟨c', mapError_eq_ok_iff.mpr loaded, rfl⟩

/-- The configuration of a command has each key from its topmost source. What it has under a key
depends on the sources of that key alone, and nothing depends on what else they say. -/
theorem config_layers {a : InstrumentArguments} {c : Config}
    (loads : d.config working env file a.preset = .ok c) :
    ∃ settings, d.settings working file = .ok settings ∧
      (Sources.mk a env settings).Resolve (a.adjust c) ∧
      (∀ (d' : Disk) working' env' file' a' c' settings' k,
        d'.config working' env' file' a'.preset = .ok c' →
          d'.settings working' file' = .ok settings' →
            (Sources.mk a env settings).SameAt ⟨a', env', settings'⟩ k →
              (a.adjust c).SameAt (a'.adjust c') k) ∧
      ∀ (d' : Disk) working' env' file' settings', d'.settings working' file' = .ok settings' →
        (∀ k : Config.Key, env.values k.name = env'.values k.name ∧
          settings.get? k.name = settings'.get? k.name) →
            d'.config working' env' file' a.preset = .ok c := by
  obtain ⟨settings, c₀, read, layered, rfl⟩ := config_eq_ok_iff.mp loads
  have resolve := Sources.resolve_of_layered (s := ⟨a, env, settings⟩) layered
  refine ⟨settings, read, resolve, ?_, ?_⟩
  · intro d' working' env' file' a' c' settings' k loads' read' same
    obtain ⟨settings', c₀', read'', layered', rfl⟩ := config_eq_ok_iff.mp loads'
    cases read'.symm.trans read''
    exact resolve.sameAt (Sources.resolve_of_layered (s := ⟨a', env', settings'⟩) layered') same
  · intro d' working' env' file' settings' read' same
    exact config_eq_ok_iff.mpr
      ⟨settings', c₀, read', (Config.layered_congr same) ▸ layered, rfl⟩

/-- `[naming]`, `suffix = "Fn"` -/
def namingSuffix : Disk :=
  ⟨[(["rdt.toml"], .file "[naming]\nsuffix = \"Fn\"\n".toUTF8)]⟩

def namingPrefix : Environment :=
  [("RDT_NAMING__PREFIX", "trace"), ("RDT_QUOTE_STYLE", "double"), ("RDT_OTHER", "on")]

def quotingContext : InstrumentArguments :=
  { file := "route.tsx", routeId := none, preset := some .context, out := none
    singleQuote := true, minify := false }

/-- The prefix of a variable stands beside the suffix of the file, and flags over all else. -/
theorem namingSuffix_layered :
    ∃ c settings, namingSuffix.config [] namingPrefix none quotingContext.preset = .ok c ∧
      c.naming = some ⟨"trace", "Fn"⟩ ∧ namingSuffix.settings [] none = .ok settings ∧
      (Sources.mk quotingContext namingPrefix settings).Resolve (quotingContext.adjust c) := by
  have loads : (namingSuffix.config [] namingPrefix none quotingContext.preset).toOption =
      some { Config.standard with preset := .context, naming := some ⟨"trace", "Fn"⟩ } := by
    decide +kernel
  obtain ⟨settings, read, resolve, -⟩ := config_layers (eq_ok_of_toOption loads)
  exact ⟨_, settings, eq_ok_of_toOption loads, rfl, read, resolve⟩

def namingList : Environment := [("RDT_NAMING", "[trace]")]

/-- A list in a variable hides the suffix of the file, though it says nothing of the suffix. -/
theorem namingSuffix_hidden :
    ∃ settings c, namingSuffix.settings [] none = .ok settings ∧
      namingSuffix.config [] namingList none none = .ok c ∧
      ((namingList.values "naming" ++ (settings.get? "naming").toList).findSome?
        (Setting.child? · "suffix")).bind (fun s => s.toText.toOption) = some "Fn" ∧
      c.naming = some ⟨"trace", "Wrapper"⟩ := by
  have read : (namingSuffix.settings [] none).toOption.any (fun settings =>
      ((namingList.values "naming" ++ (settings.get? "naming").toList).findSome?
        (Setting.child? · "suffix")).bind (fun s => s.toText.toOption) == some "Fn") = true := by
    decide +kernel
  have loads : (namingSuffix.config [] namingList none none).toOption =
      some { Config.standard with naming := some ⟨"trace", "Wrapper"⟩ } := by
    decide +kernel
  obtain ⟨settings, read, suffix⟩ := (Option.any_eq_true ..).mp read
  exact ⟨settings, _, eq_ok_of_toOption read, eq_ok_of_toOption loads, eq_of_beq suffix, rfl⟩

end Disk

end RouteWrap
