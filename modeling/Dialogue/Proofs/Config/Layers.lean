import Dialogue.CommandLine.Run
import Dialogue.Proofs.Config.Documents
import Mathlib.Data.List.Induction

/-!
# Layers of settings

Settings come from the defaults, a configuration file, environment variables and
flags.  Each setting has the value that the highest of these layers gives it,
whatever the layers give for other settings; attributes of the bot are settings
one by one.  There is one exception: a list in the place of the options gives
them in their order, but it gives none of them if an environment variable gives
one.

Main results:

- Theorem `layer?_gives`: what environment variables give together is what the
  last variable for each setting gives.
- Theorem `value_of_ofValue?`: each setting has the value that the joined layers
  have at its path.
- Theorem `value_settings`: the value of each setting of a run.
- Theorem `exists_retracted_delay`: a variable for one option takes back what a
  list has given for another.
-/

namespace Dialogue

open Config CommandLine

/-! ## Bindings -/

/-- What a name stands for after the bindings of a list have been added, of which the last
of a name counts. -/
theorem Bindings.get?_insertAll (b : Bindings) (entries : List (String × String)) (name : String) :
    (b.insertAll entries).get? name = (entries.reverse.lookup name <|> b.get? name) := by
  induction entries generalizing b with
  | nil => rfl
  | cons entry entries ih =>
    obtain ⟨key, value⟩ := entry
    have hstep : b.insertAll ((key, value) :: entries) =
        (b.insert key value).insertAll entries := rfl
    rw [hstep, ih, List.reverse_cons, List.lookup_append, lookup_singleton]
    cases entries.reverse.lookup name with
    | some found => rfl
    | none =>
      by_cases hname : key = name
      · subst hname
        simp
      · simp [hname, Bindings.get?_insert_of_ne b value (Ne.symm hname)]

namespace Settings

/-! ## Single settings -/

/-- A single option of the settings. -/
inductive OptionKey where
  | maxRedirectDepth
  | retryDelay
  | maxRetries
  | seed
  deriving DecidableEq

/-- A single setting. -/
inductive Key where
  | session
  | sources
  | bot (name : String)
  | option (key : OptionKey)
  deriving DecidableEq

namespace OptionKey

/-- The name of an option in a table of options. -/
def name : OptionKey → String
  | maxRedirectDepth => "max_redirect_depth"
  | retryDelay => "retry_delay_ms"
  | maxRetries => "max_retries"
  | seed => "seed"

/-- The position of an option in a list of options. -/
def position : OptionKey → Nat
  | maxRedirectDepth => 0
  | retryDelay => 1
  | maxRetries => 2
  | seed => 3

/-- All options. -/
def all : List OptionKey := [maxRedirectDepth, retryDelay, maxRetries, seed]

/-- There are no other options. -/
theorem mem_all (key : OptionKey) : key ∈ all := by
  cases key <;> simp [all]

/-- Different options have different names. -/
@[simp] theorem name_inj {key other : OptionKey} : key.name = other.name ↔ key = other := by
  cases key <;> cases other <;> simp [name]

/-- The value that an option has. -/
def value (options : Options) : OptionKey → Option Value
  | maxRedirectDepth => some (.integer options.maxRedirectDepth)
  | retryDelay => some (.integer options.retryDelay)
  | maxRetries => some (.integer options.maxRetries)
  | seed => options.seed.map fun seed => .integer seed

end OptionKey

namespace Key

/-- The path of a setting in a layer. -/
def path : Key → List String
  | session => ["session"]
  | sources => ["sources"]
  | bot name => ["bot", name]
  | option key => ["engine", key.name]

/-- The value that a setting has. -/
def value (settings : Settings) : Key → Option Value
  | session => settings.session.map .text
  | sources => some (.list (settings.sources.map .text))
  | bot name => (settings.bot.get? name).map .text
  | option key => key.value settings.options

/-! ## What the layers give -/

/-- What flags give for a setting: the files if there are any, and of several
attributes with one name the last. -/
def ofFlags (flags : Flags) : Key → Option Value
  | session => flags.session.map .text
  | sources => if flags.files.isEmpty then none else some (.list (flags.files.map .text))
  | bot name => (flags.attributes.reverse.lookup name).map .text
  | option .seed => flags.seed.map fun seed => .integer seed
  | option _ => none

/-- What an environment variable gives for a setting. -/
def ofVariable (entry : String × String) (key : Key) : Option Value :=
  if Variable.path? entry.1 = some key.path then Variable.valueOfText? entry.2 else none

/-- What environment variables give for a setting: what the last one for it
gives. -/
def ofEnvironment (environment : List (String × String)) (key : Key) : Option Value :=
  environment.reverse.findSome? fun entry => key.ofVariable entry

/-- Whether an environment variable gives an option. -/
def givesOption (environment : List (String × String)) : Bool :=
  OptionKey.all.any fun key => ((option key).ofEnvironment environment).isSome

/-- What the value of a configuration file gives for a setting under environment
variables: what is at the path of the setting.  A list in the place of the options
gives them in their order, unless a variable gives an option. -/
def ofDocument (document : Value) (environment : List (String × String)) : Key → Option Value
  | option key =>
    match document.at? ["engine"] with
    | some (.list items) => if givesOption environment then none else items[key.position]?
    | _ => document.at? (option key).path
  | key => document.at? key.path

/-! ## Paths of settings -/

/-- The paths of different settings part. -/
theorem path_prefix_iff {key other : Key} : key.path <+: other.path ↔ key = other := by
  cases key <;> cases other <;> simp [path]

/-- Different settings have different paths. -/
theorem path_inj {key other : Key} : key.path = other.path ↔ key = other := by
  refine ⟨fun h => path_prefix_iff.1 (h ▸ List.prefix_rfl), fun h => h ▸ rfl⟩

/-- What a variable gives is all that is in the layer it makes. -/
theorem at?_nest (value : Value) (key other : Key) :
    (Variable.nest value key.path).at? other.path = if key = other then some value else none := by
  cases key <;> cases other <;> simp [path, Variable.nest, lookup_singleton]

/-- The layer that a variable makes leads to every setting. -/
theorem leads_nest (value : Value) (key other : Key) :
    (Variable.nest value key.path).Leads other.path := by
  cases key <;> cases other <;>
    simp [path, Variable.nest, Value.Leads, NamedOnce, lookup_singleton]

/-- The layer that a variable makes has options exactly if it is for an option. -/
theorem isSome_at?_nest (value : Value) (key : Key) :
    ((Variable.nest value key.path).at? ["engine"]).isSome ↔ ∃ o, key = option o := by
  cases key <;> simp [path, Variable.nest, lookup_singleton]

/-! ## Environment variables -/

/-- What the variables give for a setting after one more: what it gives, or what they
have given before. -/
theorem ofEnvironment_concat (environment : List (String × String)) (entry : String × String)
    (key : Key) :
    key.ofEnvironment (environment ++ [entry]) =
      (key.ofVariable entry <|> key.ofEnvironment environment) := by
  unfold ofEnvironment
  rw [List.reverse_append, List.reverse_singleton, List.singleton_append, List.findSome?_cons]
  cases key.ofVariable entry <;> rfl

/-- Variables give an option exactly if they give a value for one. -/
theorem givesOption_iff (environment : List (String × String)) :
    givesOption environment ↔ ∃ o, ((option o).ofEnvironment environment).isSome := by
  rw [givesOption, List.any_eq_true]
  exact ⟨fun ⟨o, _, h⟩ => ⟨o, h⟩, fun ⟨o, h⟩ => ⟨o, o.mem_all, h⟩⟩

end Key

/-- A layer holds what environment variables give. -/
structure Gives (environment : List (String × String)) (layer : Value) : Prop where
  leads : ∀ key : Key, layer.Leads key.path
  found : ∀ key : Key, (∀ value ∈ layer.at? key.path, value.isTable = false) →
    layer.at? key.path = key.ofEnvironment environment
  options : (layer.at? ["engine"]).isSome ↔ Key.givesOption environment

namespace Gives

variable {environment : List (String × String)} {layer : Value}

/-- No variables give nothing. -/
theorem nil : Gives [] (.table []) where
  leads key := by cases key <;> simp [Key.path, Value.Leads, NamedOnce]
  found key _ := by cases key <;> rfl
  options := by decide

/-- A variable that is none of the configuration gives nothing. -/
theorem concat_none {entry : String × String} (hpath : Variable.path? entry.1 = none)
    (h : Gives environment layer) : Gives (environment ++ [entry]) layer := by
  have hsame : ∀ key : Key, key.ofEnvironment (environment ++ [entry]) =
      key.ofEnvironment environment := by
    intro key
    rw [Key.ofEnvironment_concat, Key.ofVariable, hpath, if_neg (by simp)]
    rfl
  refine ⟨h.leads, fun key hkey => (h.found key hkey).trans (hsame key).symm, ?_⟩
  rw [h.options, Key.givesOption_iff, Key.givesOption_iff]
  exact exists_congr fun o => by rw [hsame]

/-- A variable for a setting lays its value over those of the variables before. -/
theorem concat_some {entry : String × String} {own : Key} {value : Value}
    (hpath : Variable.path? entry.1 = some own.path)
    (hvalue : Variable.valueOfText? entry.2 = some value) (h : Gives environment layer) :
    Gives (environment ++ [entry]) ((Variable.nest value own.path).over layer) := by
  have hentry : ∀ key : Key, key.ofVariable entry = if own = key then some value else none := by
    intro key
    simp only [Key.ofVariable, hpath, hvalue, Option.some.injEq, Key.path_inj]
  refine ⟨fun key => (Key.leads_nest value own key).over (h.leads key), fun key hkey => ?_, ?_⟩
  · rw [at?_over (Key.leads_nest value own key), Key.at?_nest, ← hentry] at hkey ⊢
    rw [overlay_eq_orElse hkey, Key.ofEnvironment_concat]
    cases hown : key.ofVariable entry with
    | some found => rfl
    | none =>
      rw [hown, overlay_none_left] at hkey
      exact h.found key hkey
  · rw [at?_over (Value.Leads.of_concat (Key.leads_nest value own (.option .seed))),
      isSome_overlay, Key.isSome_at?_nest, h.options, Key.givesOption_iff, Key.givesOption_iff,
      ← exists_or]
    refine exists_congr fun o => ?_
    rw [Key.ofEnvironment_concat, hentry]
    split <;> simp [*]

end Gives

/-- What environment variables for settings give together is what the last variable
for each setting gives. -/
theorem layer?_gives {environment : List (String × String)} {layer : Value}
    (hpaths : ∀ entry ∈ environment, ∀ path, Variable.path? entry.1 = some path →
      ∃ key : Key, path = key.path)
    (h : Variable.layer? environment = some layer) : Gives environment layer := by
  induction environment using List.reverseRecOn generalizing layer with
  | nil =>
    cases h
    exact .nil
  | append_singleton environment entry ih =>
    unfold Variable.layer? at h
    rw [List.foldlM_append, Option.bind_eq_bind, Option.bind_eq_some_iff] at h
    obtain ⟨before, hbefore, h⟩ := h
    have hgives := ih (fun entry hentry => hpaths entry (List.mem_append_left _ hentry)) hbefore
    simp only [List.foldlM_cons, List.foldlM_nil, Option.bind_eq_bind, Option.bind_eq_some_iff,
      Option.pure_def, Option.some.injEq, exists_eq_right] at h
    cases hpath : Variable.path? entry.1 with
    | none =>
      simp only [hpath, Option.some.injEq] at h
      subst h
      exact hgives.concat_none hpath
    | some path =>
      simp only [hpath] at h
      obtain ⟨value, hvalue, rfl⟩ := Option.map_eq_some_iff.1 h
      obtain ⟨key, rfl⟩ := hpaths entry (by simp) path hpath
      exact hgives.concat_some hpath hvalue

/-! ## Reading the joined layers -/

/-- A field has the value of its name, which is no table, or else its default;
`write` is how a value of the field is written. -/
theorem field_eq_some {α : Type} {entries : Entries} {name : String} {read : Value → Option α}
    {default a : α} (write : α → Option Value)
    (hread : ∀ value a, read value = some a → write a = some value ∧ value.isTable = false)
    (h : field entries name read default = some a) :
    (∀ value ∈ entries.lookup name, value.isTable = false) ∧
      write a = (entries.lookup name <|> write default) := by
  unfold field at h
  cases hlookup : entries.lookup name with
  | none =>
    simp only [hlookup, Option.some.injEq] at h
    exact ⟨by simp, by rw [h]; rfl⟩
  | some value =>
    simp only [hlookup] at h
    obtain ⟨hwrite, htable⟩ := hread value a h
    exact ⟨fun found hfound => Option.mem_some.1 hfound ▸ htable, hwrite⟩

/-- A text is written as itself. -/
theorem text?_write {value : Value} {content : String} (h : text? value = some content) :
    value = .text content := by
  cases value <;> simp_all [text?]

/-- A whole number is written as itself. -/
theorem natural?_write {bound : Nat} {value : Value} {n : Nat}
    (h : natural? bound value = some n) : value = .integer n := by
  obtain ⟨⟨m, rfl, rfl⟩, -⟩ := (natural?_eq_some_iff bound value n).1 h
  rfl

/-- Texts are written as themselves. -/
theorem mapM_text?_write {items : List Value} {texts : List String}
    (h : items.mapM text? = some texts) : items = texts.map .text := by
  induction items generalizing texts with
  | nil => simp_all
  | cons item items ih =>
    simp only [List.mapM_cons, Option.bind_eq_bind, Option.bind_eq_some_iff, Option.pure_def,
      Option.some.injEq] at h
    obtain ⟨content, hitem, rest, hrest, rfl⟩ := h
    rw [text?_write hitem, ih hrest, List.map_cons]

/-- A list of texts is written as itself. -/
theorem texts?_write {value : Value} {texts : List String} (h : texts? value = some texts) :
    value = .list (texts.map .text) := by
  cases value with
  | list items => rw [mapM_text?_write h]
  | _ => simp [texts?] at h

/-- Entries with texts are written as themselves. -/
theorem mapM_binding_write {entries : Entries} {bound : List (String × String)}
    (h : (entries.mapM fun (name, value) => do return (name, ← text? value)) = some bound) :
    bound.map Prod.fst = entries.map Prod.fst ∧
      ∀ name, entries.lookup name = (bound.lookup name).map .text := by
  induction entries generalizing bound with
  | nil => simp_all
  | cons entry entries ih =>
    obtain ⟨key, value⟩ := entry
    simp only [List.mapM_cons, Option.bind_eq_bind, Option.bind_eq_some_iff, Option.pure_def,
      Option.some.injEq] at h
    obtain ⟨_, ⟨content, hvalue, rfl⟩, rest, hrest, rfl⟩ := h
    obtain ⟨hnames, hlookup⟩ := ih hrest
    refine ⟨by simp [hnames], fun name => ?_⟩
    rw [List.lookup_cons, List.lookup_cons, hlookup, text?_write hvalue]
    cases name == key <;> rfl

/-- A table of texts without repeated names binds its names to what they stand
for. -/
theorem bindings?_write {entries : Entries} {b : Bindings} (once : NamedOnce entries)
    (h : bindings? (.table entries) = some b) (name : String) :
    (b.get? name).map Value.text = entries.lookup name := by
  simp only [bindings?, Option.bind_eq_bind, Option.bind_eq_some_iff, Option.pure_def,
    Option.some.injEq] at h
  obtain ⟨bound, hbound, rfl⟩ := h
  obtain ⟨hnames, hlookup⟩ := mapM_binding_write hbound
  have hbound : NamedOnce bound := by
    unfold NamedOnce
    rw [hnames]
    exact once
  have hget : (Bindings.ofList bound).get? name =
      (bound.lookup name <|> Bindings.empty.get? name) := by
    rw [← hbound.lookup_reverse]
    exact Bindings.get?_insertAll .empty bound name
  rw [hget, hlookup]
  cases bound.lookup name <;> rfl

/-- The options of a table have the values of their names, which are no tables, or
else their defaults. -/
theorem options?_table {entries : Entries} {options : Options}
    (h : options? (.table entries) = some options) (key : OptionKey) :
    (∀ value ∈ entries.lookup key.name, value.isTable = false) ∧
      key.value options = (entries.lookup key.name <|> key.value {}) := by
  simp only [options?, Option.bind_eq_bind, Option.bind_eq_some_iff, Option.pure_def,
    Option.some.injEq] at h
  obtain ⟨depth, hdepth, delay, hdelay, retries, hretries, seed, hseed, rfl⟩ := h
  have hnatural : ∀ (bound : Nat) (value : Value) (n : Nat), natural? bound value = some n →
      some (Value.integer n) = some value ∧ value.isTable = false := by
    intro bound value n hn
    rw [natural?_write hn]
    exact ⟨rfl, rfl⟩
  cases key with
  | maxRedirectDepth => exact field_eq_some (fun n : Nat => some (.integer n)) (hnatural _) hdepth
  | retryDelay => exact field_eq_some (fun n : Nat => some (.integer n)) (hnatural _) hdelay
  | maxRetries => exact field_eq_some (fun n : Nat => some (.integer n)) (hnatural _) hretries
  | seed =>
    refine field_eq_some (fun seed => seed.map fun n => .integer n) ?_ hseed
    intro value seed hseed
    obtain ⟨n, hn, rfl⟩ := Option.map_eq_some_iff.1 hseed
    exact hnatural wordBound value n hn

/-- The options of a list have its values in their order, of which none is missing. -/
theorem options?_list {items : List Value} {options : Options}
    (h : options? (.list items) = some options) (key : OptionKey) :
    ∃ value, items[key.position]? = some value ∧ key.value options = some value := by
  unfold options? at h
  split at h
  case h_1 heq => cases heq
  case h_2 depth delay retries seed rest heq =>
    cases heq
    simp only [Option.bind_eq_bind, Option.bind_eq_some_iff, Option.pure_def,
      Option.some.injEq] at h
    obtain ⟨m, hdepth, n, hdelay, k, hretries, s, hseed, rfl⟩ := h
    obtain ⟨s, hs, rfl⟩ := Option.map_eq_some_iff.1 hseed
    rw [natural?_write hdepth, natural?_write hdelay, natural?_write hretries, natural?_write hs]
    cases key <;> exact ⟨_, rfl, rfl⟩
  case h_3 => cases h

/-- An attribute has the value that is at its path, which is no table, or none. -/
theorem get?_of_field_bot {entries : Entries} {b : Bindings}
    (once : ∀ attributes, entries.lookup "bot" = some (.table attributes) → NamedOnce attributes)
    (h : field entries "bot" bindings? .empty = some b) (name : String) :
    (∀ value ∈ (Value.table entries).at? ["bot", name], value.isTable = false) ∧
      (b.get? name).map Value.text = (Value.table entries).at? ["bot", name] := by
  unfold field at h
  rw [Value.at?_table]
  cases hlookup : entries.lookup "bot" with
  | none =>
    simp only [hlookup, Option.some.injEq] at h
    subst h
    exact ⟨by simp, rfl⟩
  | some value =>
    simp only [hlookup] at h
    cases value with
    | table attributes =>
      have hget := bindings?_write (once attributes hlookup) h name
      rw [Option.bind_some, Value.at?_name, ← hget]
      refine ⟨fun value hvalue => ?_, rfl⟩
      obtain ⟨content, -, rfl⟩ := Option.map_eq_some_iff.1 hvalue
      rfl
    | _ => simp [bindings?] at h

/-- An option has the value that is at its path, which is no table, or else its
default, except for the options of a list. -/
theorem value_of_field_engine {entries : Entries} {options : Options}
    (h : field entries "engine" options? {} = some options) (key : OptionKey) :
    (∃ items value, entries.lookup "engine" = some (.list items) ∧
      items[key.position]? = some value ∧ key.value options = some value) ∨
    ((∀ items, entries.lookup "engine" ≠ some (.list items)) ∧
      (∀ value ∈ (Value.table entries).at? ["engine", key.name], value.isTable = false) ∧
      key.value options =
        ((Value.table entries).at? ["engine", key.name] <|> key.value {})) := by
  unfold field at h
  rw [Value.at?_table]
  cases hlookup : entries.lookup "engine" with
  | none =>
    simp only [hlookup, Option.some.injEq] at h
    subst h
    exact .inr ⟨by simp, by simp, rfl⟩
  | some value =>
    simp only [hlookup] at h
    cases value with
    | table inner =>
      rw [Option.bind_some, Value.at?_name]
      exact .inr ⟨by simp, options?_table h key⟩
    | list items =>
      obtain ⟨value, hitem, hvalue⟩ := options?_list h key
      exact .inl ⟨items, value, rfl, hitem, hvalue⟩
    | _ => simp [options?] at h

/-- Each setting has the value that is at its path, which is no table, or else its
default, except for the options of a list. -/
theorem value_of_ofValue? {joined : Value} {settings : Settings}
    (once : ∀ attributes, joined.at? ["bot"] = some (.table attributes) → NamedOnce attributes)
    (h : ofValue? joined = some settings) (key : Key) :
    (∃ o items value, key = .option o ∧ joined.at? ["engine"] = some (.list items) ∧
      items[o.position]? = some value ∧ key.value settings = some value) ∨
    ((∀ o, key = .option o → ∀ items, joined.at? ["engine"] ≠ some (.list items)) ∧
      (∀ value ∈ joined.at? key.path, value.isTable = false) ∧
      key.value settings = (joined.at? key.path <|> key.value {})) := by
  cases joined with
  | table entries =>
    simp only [Value.at?_name] at once ⊢
    simp only [ofValue?, Option.bind_eq_bind, Option.bind_eq_some_iff, Option.pure_def,
      Option.some.injEq] at h
    obtain ⟨bot, hbot, sources, hsources, options, hoptions, session, hsession, rfl⟩ := h
    cases key with
    | session =>
      refine .inr ⟨by simp, ?_⟩
      rw [Key.path, Value.at?_name]
      refine field_eq_some (fun session => session.map .text) ?_ hsession
      intro value session hsession
      obtain ⟨content, hcontent, rfl⟩ := Option.map_eq_some_iff.1 hsession
      rw [text?_write hcontent]
      exact ⟨rfl, rfl⟩
    | sources =>
      refine .inr ⟨by simp, ?_⟩
      rw [Key.path, Value.at?_name]
      refine field_eq_some (fun sources => some (.list (sources.map .text))) ?_ hsources
      intro value sources hsources
      rw [texts?_write hsources]
      exact ⟨rfl, rfl⟩
    | bot name =>
      obtain ⟨htable, hget⟩ := get?_of_field_bot once hbot name
      refine .inr ⟨by simp, htable, hget.trans ?_⟩
      rw [Key.path]
      cases (Value.table entries).at? ["bot", name] <;> rfl
    | option o =>
      rcases value_of_field_engine hoptions o with ⟨items, value, hlist, hitem, hvalue⟩ | hrest
      · exact .inl ⟨o, items, value, rfl, hlist, hitem, hvalue⟩
      · exact .inr ⟨fun _ _ => hrest.1, hrest.2⟩
  | _ => simp [ofValue?] at h

/-! ## Joined layers -/

/-- The defaults have every setting at its path. -/
theorem at?_toValue_default (key : Key) : (toValue {}).at? key.path = key.value {} := by
  cases key with
  | option o => cases o <;> rfl
  | _ => rfl

/-- What a configuration file gives is a table in which no name stands twice. -/
theorem fileLayer_distinct {file : FileContent} {document : Value}
    (h : fileLayer file = some document) : document.isTable ∧ document.Distinct := by
  cases file with
  | absent =>
    cases h
    exact ⟨rfl, .table List.nodup_nil (by simp)⟩
  | notText => cases h
  | text content => exact Toml.parse?_distinct h

section Joined

variable {environment : List (String × String)} {upper document : Value}
  (hupper : Gives environment upper) (hdocument : document.isTable ∧ document.Distinct)

include hupper hdocument

/-- What the layers have in the place of the options. -/
theorem at?_joined_engine :
    (upper.over (document.over (toValue {}))).at? ["engine"] =
      overlay (upper.at? ["engine"])
        (overlay (document.at? ["engine"]) ((toValue {}).at? ["engine"])) := by
  rw [at?_over (Value.Leads.of_concat (hupper.leads (.option .seed))),
    at?_over (hdocument.2.leads_name hdocument.1 "engine")]

/-- What the layers have at the path of a setting; it may be that its default is
hidden. -/
theorem at?_joined (key : Key) :
    ∃ earlier, (earlier = none ∨ earlier = key.value {}) ∧
      (upper.over (document.over (toValue {}))).at? key.path =
        overlay (upper.at? key.path) (overlay (document.at? key.path) earlier) := by
  rw [at?_over (hupper.leads key)]
  rcases hdocument.2.leads_or key.path with hleads | ⟨hnone, hover⟩
  · exact ⟨key.value {}, .inr rfl, by rw [at?_over hleads, at?_toValue_default]⟩
  · exact ⟨none, .inl rfl, by rw [hover, hnone, overlay_none_left]⟩

/-- No attribute stands twice among those of the layers. -/
theorem onceAt_joined : (upper.over (document.over (toValue {}))).OnceAt ["bot"] := by
  have hleads := hupper.leads (.bot "")
  refine .over ?_ (.over ?_ ?_ ?_) (Value.Leads.of_concat hleads)
  · intro entries hentries
    obtain ⟨_, heq, once⟩ := Value.Leads.table hleads hentries
    cases heq
    exact once
  · intro entries hentries
    cases hdocument.2.at? hentries with
    | table once _ => exact once
  · intro entries hentries
    cases hentries
    exact List.nodup_nil
  · exact hdocument.2.leads_name hdocument.1 "bot"

/-- What the layers have at the path of a setting is no table only if it is what the variables
give, or else what the configuration file has there, or else the default. -/
theorem at?_joined_orElse {key : Key}
    (h : ∀ value ∈ (upper.over (document.over (toValue {}))).at? key.path, value.isTable = false) :
    ((upper.over (document.over (toValue {}))).at? key.path <|> key.value {}) =
      (key.ofEnvironment environment <|> document.at? key.path <|> key.value {}) := by
  obtain ⟨earlier, hearlier, hjoined⟩ := at?_joined hupper hdocument key
  rw [hjoined] at h ⊢
  rw [overlay_eq_orElse h]
  cases hown : upper.at? key.path with
  | some value =>
    have hvalue : value.isTable = false := by
      rw [hown] at h
      exact isTable_of_overlay h
    have hgiven := hupper.found key (by simpa [hown] using hvalue)
    rw [← hgiven, hown]
    rfl
  | none =>
    have hgiven := hupper.found key (by simp [hown])
    rw [hown, overlay_none_left] at h
    rw [← hgiven, hown, overlay_eq_orElse h]
    rcases hearlier with rfl | rfl
    · cases document.at? key.path <;> rfl
    · cases document.at? key.path <;> cases key.value {} <;> rfl

/-- A list in the place of the options of the layers is that of the configuration
file, and no variable gives an option. -/
theorem list_of_joined {items : List Value}
    (h : (upper.over (document.over (toValue {}))).at? ["engine"] = some (.list items)) :
    document.at? ["engine"] = some (.list items) ∧ Key.givesOption environment = false := by
  rw [at?_joined_engine hupper hdocument] at h
  cases hengine : upper.at? ["engine"] with
  | some value =>
    -- What variables give for options is a table, and so it is over whatever lies below.
    obtain ⟨entries, rfl, -⟩ := Value.Leads.table (hupper.leads (.option .seed)) hengine
    rw [hengine] at h
    cases hbelow : overlay (document.at? ["engine"]) ((toValue {}).at? ["engine"]) with
    | none => simp [hbelow] at h
    | some below =>
      rw [hbelow, overlay, Option.some.injEq] at h
      cases below <;> cases h
  | none =>
    refine ⟨?_, by simpa [hengine] using hupper.options⟩
    rw [hengine, overlay_none_left] at h
    cases hlist : document.at? ["engine"] with
    | none => cases hlist ▸ h
    | some value =>
      rw [hlist] at h
      cases value with
      | list found => exact h
      | _ => cases h

/-- Where the layers have no list in the place of the options, a configuration file
gives what is at the path of a setting. -/
theorem ofDocument_of_joined {key : Key}
    (h : ∀ o, key = .option o → ∀ items,
      (upper.over (document.over (toValue {}))).at? ["engine"] ≠ some (.list items)) :
    key.ofDocument document environment = document.at? key.path := by
  cases key with
  | option o =>
    simp only [Key.ofDocument]
    split
    case h_1 items hlist =>
      have hgiven : Key.givesOption environment := by
        by_contra hnot
        have hnone : upper.at? ["engine"] = none :=
          Option.not_isSome_iff_eq_none.1 fun hsome => hnot (hupper.options.1 hsome)
        refine h o rfl items ?_
        rw [at?_joined_engine hupper hdocument, hnone, hlist]
        rfl
      have hpath : document.at? (Key.option o).path = none :=
        (document.at?_append ["engine"] [o.name]).trans (by rw [hlist]; rfl)
      rw [if_pos hgiven, hpath]
    case h_2 => rfl
  | _ => rfl

end Joined

/-! ## Settings of a run -/

/-- Each setting of what is loaded has the value that the environment, the
configuration file and the defaults give it, in this order. -/
theorem value_load {file : FileContent} {environment : List (String × String)}
    {settings : Settings} (h : load file environment = .ok settings)
    (hpaths : ∀ entry ∈ environment, ∀ path, Variable.path? entry.1 = some path →
      ∃ key : Key, path = key.path) :
    ∃ document, fileLayer file = some document ∧ ∀ key : Key, key.value settings =
      (key.ofEnvironment environment <|> key.ofDocument document environment <|>
        key.value {}) := by
  unfold load at h
  split at h
  case h_1 => cases h
  case h_2 upper hupper =>
  split at h
  case h_2 => cases h
  case h_1 found hfound =>
  obtain rfl : found = settings := by simpa using h
  obtain ⟨document, hdocument, hvalue⟩ := Option.bind_eq_some_iff.1 hfound
  refine ⟨document, hdocument, fun key => ?_⟩
  have hgives := layer?_gives hpaths hupper
  have hdistinct := fileLayer_distinct hdocument
  rcases value_of_ofValue? (onceAt_joined hgives hdistinct) hvalue key with
    ⟨o, items, value, rfl, hlist, hitem, hkey⟩ | ⟨hnolist, htable, hkey⟩
  · obtain ⟨hlist, hnone⟩ := list_of_joined hgives hdistinct hlist
    have henvironment : (Key.option o).ofEnvironment environment = none := by
      by_contra hsome
      have := (Key.givesOption_iff environment).2 ⟨o, Option.isSome_iff_ne_none.2 hsome⟩
      simp [hnone] at this
    have hfile : (Key.option o).ofDocument document environment = some value := by
      simp [Key.ofDocument, hlist, hnone, hitem]
    rw [hkey, henvironment, hfile]
    rfl
  · rw [hkey, ofDocument_of_joined hgives hdistinct hnolist]
    exact at?_joined_orElse hgives hdistinct htable

/-- A setting under flags has the value that they give it, or else its own. -/
theorem value_over (flags : Flags) (settings : Settings) (key : Key) :
    key.value (flags.over settings) = (key.ofFlags flags <|> key.value settings) := by
  cases key with
  | session =>
    simp only [Key.value, Key.ofFlags, Flags.over]
    cases flags.session <;> rfl
  | sources =>
    simp only [Key.value, Key.ofFlags, Flags.over]
    split <;> rfl
  | bot name =>
    simp only [Key.value, Key.ofFlags, Flags.over, Bindings.get?_insertAll]
    cases flags.attributes.reverse.lookup name <;> rfl
  | option o =>
    cases o with
    | seed =>
      simp only [Key.value, OptionKey.value, Key.ofFlags, Flags.over]
      cases flags.seed <;> rfl
    | _ => rfl

/-- Each setting of a run has the value that the flags, the environment, the
configuration file and the defaults give it, in this order. -/
theorem value_settings {files : Files} {environment : List (String × String)} {flags : Flags}
    {found : Settings} (h : CommandLine.settings files environment flags = .ok found)
    (hpaths : ∀ entry ∈ environment, ∀ path, Variable.path? entry.1 = some path →
      ∃ key : Key, path = key.path) :
    ∃ document, fileLayer (files (configFile flags)) = some document ∧
      ∀ key : Key, key.value found =
        (key.ofFlags flags <|> key.ofEnvironment environment <|>
          key.ofDocument document environment <|> key.value {}) := by
  unfold CommandLine.settings at h
  split at h
  case h_1 loaded hloaded =>
    cases h
    obtain ⟨document, hdocument, hvalue⟩ := value_load hloaded hpaths
    exact ⟨document, hdocument, fun key => by rw [value_over, hvalue]⟩
  case h_2 => cases h
  case h_3 => cases h

/-- The environment gives the seed and replaces one of two attributes of the file, and
of two flags for the other attribute the last one counts. -/
theorem value_settings_attributes :
    let files : Files := fun _ => .text ("sources = [\"a.aiml\"]\n[bot]\nname = \"Ada\"\n" ++
      "age = \"42\"\n[engine]\nmax_redirect_depth = 8\n")
    let environment := [("HOME", "/"), ("AIMLITE_BOT__NAME", "Eve"), ("AIMLITE_ENGINE__SEED", "7")]
    let flags : Flags := { attributes := [("age", "43"), ("age", "44")] }
    let found : Settings := ⟨.ofList [("age", "44"), ("name", "Eve")], ["a.aiml"],
      ⟨8, 1000, 10, some 7⟩, none⟩
    (CommandLine.settings files environment flags = .ok found ∧
      ∀ entry ∈ environment, ∀ path, Variable.path? entry.1 = some path →
        ∃ key : Key, path = key.path) ∧
    ∃ document, fileLayer (files (configFile flags)) = some document ∧
      ∀ key : Key, key.value found =
        (key.ofFlags flags <|> key.ofEnvironment environment <|>
          key.ofDocument document environment <|> key.value {}) := by
  intro files environment flags found
  have hfound : CommandLine.settings files environment flags = .ok found := by decide +kernel
  have hhome : Variable.path? "HOME" = none := by decide +kernel
  have hname : Variable.path? "AIMLITE_BOT__NAME" = some (Key.bot "name").path := by
    decide +kernel
  have hseed : Variable.path? "AIMLITE_ENGINE__SEED" = some (Key.option .seed).path := by
    decide +kernel
  have hpaths : ∀ entry ∈ environment, ∀ path, Variable.path? entry.1 = some path →
      ∃ key : Key, path = key.path := by
    simp [environment, hhome, hname, hseed, Key.path_inj]
  exact ⟨⟨hfound, hpaths⟩, value_settings hfound hpaths⟩

/-- A variable for the number of retries takes back the delay that a list of options has
given, and for which it gives nothing itself. -/
theorem exists_retracted_delay :
    let files : Files := fun _ => .text "engine = [1, 2, 3, 4]\n"
    let retries := ("AIMLITE_ENGINE__MAX_RETRIES", "5")
    Variable.path? retries.1 = some (Key.option .maxRetries).path ∧
      ((Key.option .retryDelay).ofEnvironment [retries]).isNone ∧
      (CommandLine.settings files [] {}).toOption.map (·.options.retryDelay) = some 2 ∧
      (CommandLine.settings files [retries] {}).toOption.map (·.options.retryDelay) =
        some 1000 := by
  decide +kernel

end Settings

end Dialogue
