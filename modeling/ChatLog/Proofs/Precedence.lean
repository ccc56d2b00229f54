import ChatLog.Proofs.Failures
import ChatLog.Settings.File
import Mathlib.Data.List.TakeWhile

/-!
Where each setting comes from. A setting is told by the variables of the environment if one of them
speaks of it, else by the settings file, and else it is as built in; the one value that counts is
converted, and nothing else can change the setting. Loading fails only when there is a file that
cannot be read, or a value that counts and does not convert. Variables, and entries of a file, are
listed in the order of precedence: of several that speak of one setting the first counts.
-/
namespace ChatLog.Settings

inductive Key where
  | maxSearchResults
  | selfId
  | modChannelId
  | spoilerChannelId
  | commandTrigger
  | displayRows
  | fuzzyLimit
  | database
  | log
deriving DecidableEq, Repr

inductive Datum where
  | word (value : UInt64)
  | text (value : String)
deriving DecidableEq, Repr

def datum (settings : Settings) : Key → Datum
  | .maxSearchResults => .word settings.maxSearchResults
  | .selfId => .word settings.selfId
  | .modChannelId => .word settings.modChannelId
  | .spoilerChannelId => .word settings.spoilerChannelId
  | .commandTrigger => .text settings.commandTrigger
  | .displayRows => .word settings.displayRows
  | .fuzzyLimit => .word settings.fuzzyLimit
  | .database => .text settings.database
  | .log => .text settings.log

namespace Key

def name : Key → String
  | .maxSearchResults => "max_search_results"
  | .selfId => "self_id"
  | .modChannelId => "mod_channel_id"
  | .spoilerChannelId => "spoiler_channel_id"
  | .commandTrigger => "command_trigger"
  | .displayRows => "display_rows"
  | .fuzzyLimit => "fuzzy_limit"
  | .database => "database"
  | .log => "log"

def isText : Key → Bool
  | .commandTrigger => true
  | .database => true
  | .log => true
  | _ => false

def convert? (key : Key) (value : Value) : Option Datum :=
  if key.isText then value.toText?.map .text else value.toWord?.map .word

/-- The setting that the value which counts gives, unless that value does not convert. Where no
value counts the setting is as built in. -/
def datum? (key : Key) : Option Value → Option Datum
  | none => some (builtIn.datum key)
  | some value => key.convert? value

/-- Whether a name goes on behind the name of the setting, to a place inside it: with steps, each a
point and a word or an index in brackets. -/
def isBefore (key : Key) (name : String) : Bool :=
  (key.name.toList.isPrefixOf? name.toList).any fun steps =>
    steps ≠ [] && Name.isSteps steps.length steps

/-- What an entry of a table says of a setting. An entry for a place inside the setting makes it a
list or a table. -/
def saidIn? (key : Key) (entry : String × Value) : Option Value :=
  if entry.1 = key.name then some entry.2
  else if key.isBefore entry.1 then some .composite
  else none

def saidBy? (key : Key) (given : String × String) : Option Value :=
  (keyOfVariable? given.1).bind fun name => key.saidIn? (name, .ofVariable given.2)

/-- The value that counts for a setting, unless the built in one does: of the variables that speak
of it the first, which stands for the one that is applied last, and else of the entries. -/
def effective? (key : Key) (environment : List (String × String)) (file : Table) : Option Value :=
  (environment.findSome? key.saidBy?).or (file.findSome? key.saidIn?)

theorem isWordPart_name (key : Key) : ∀ c ∈ key.name.toList, Name.isWordPart c := by
  cases key <;> exact List.all_eq_true.mp rfl

theorem name_ne_nil (key : Key) : key.name.toList ≠ [] := by
  cases key <;> decide

theorem name_injective : Function.Injective name := by
  intro left right same
  cases left <;> cases right <;> first | rfl | exact absurd same (by decide)

end Key

namespace Name

theorem takeWhile_of_isSteps {most : Nat} {steps : List Char} (proper : isSteps most steps) :
    steps.takeWhile isWordPart = [] := by
  unfold isSteps at proper
  split at proper
  · rfl
  · rw [List.takeWhile_cons_of_neg (by decide)]
  · rw [List.takeWhile_cons_of_neg (by decide)]
  · cases proper

variable {key : Key} {name : String}

theorem isBefore_iff : key.isBefore name ↔
    ∃ steps, steps ≠ [] ∧ isSteps steps.length steps ∧ name.toList = key.name.toList ++ steps := by
  simp only [Key.isBefore, Option.any_eq_true, List.isPrefixOf?_eq_some_iff_append_eq,
    Bool.and_eq_true, decide_eq_true_eq]
  exact exists_congr fun steps => by rw [and_comm, and_assoc, eq_comm (a := name.toList)]

theorem target_eq_false_iff : target name = (key.name, false) ↔ name = key.name := by
  constructor
  · intro found
    simp only [target] at found
    split at found
    · exact Bool.noConfusion (congrArg Prod.snd found)
    · exact congrArg Prod.fst found
  · rintro rfl
    have steps : key.name.toList.dropWhile isWordPart = [] :=
      List.dropWhile_eq_nil_iff.mpr key.isWordPart_name
    simp only [target, steps, ne_eq, not_true, false_and, and_false, if_false]

theorem target_eq_true_iff : target name = (key.name, true) ↔ key.isBefore name := by
  rw [isBefore_iff]
  constructor
  · intro found
    simp only [target] at found
    split at found
    · rename_i proper
      have word := congrArg (String.toList ∘ Prod.fst) found
      simp only [Function.comp_apply, String.toList_ofList] at word
      refine ⟨_, proper.2.1, proper.2.2, ?_⟩
      rw [← word, List.takeWhile_append_dropWhile]
    · cases found
  · rintro ⟨steps, further, proper, whole⟩
    have bare := takeWhile_of_isSteps proper
    have word : name.toList.takeWhile isWordPart = key.name.toList := by
      rw [whole, List.takeWhile_append_of_pos key.isWordPart_name, bare, List.append_nil]
    have rest : name.toList.dropWhile isWordPart = steps := by
      rw [whole, List.dropWhile_append_of_pos key.isWordPart_name]
      simpa [bare] using List.takeWhile_append_dropWhile (p := isWordPart) (l := steps)
    simp only [target, word, rest, String.ofList_toList]
    rw [if_pos ⟨key.name_ne_nil, further, proper⟩]

end Name

namespace Key

variable {key other : Key}

/-- The name of a setting speaks of that setting only. -/
theorem saidIn?_name (value : Value) :
    key.saidIn? (other.name, value) = if key = other then some value else none := by
  have itself := Name.target_eq_false_iff.mpr (Eq.refl other.name)
  have beside : ¬ key.isBefore other.name := by
    rw [← Name.target_eq_true_iff, itself]
    exact fun equal => Bool.noConfusion (congrArg Prod.snd equal)
  simp only [saidIn?, beside, name_injective.eq_iff, eq_comm, Bool.false_eq_true, if_false]

theorem saidBy?_of_names {given : String × String}
    (names : keyOfVariable? given.1 = some other.name) :
    key.saidBy? given = if key = other then some (.ofVariable given.2) else none := by
  rw [saidBy?, names, Option.bind_some, saidIn?_name]

/-- Variables that say nothing of a setting do not count for it. -/
theorem effective?_append_of_silent {front : List (String × String)}
    (silent : ∀ given ∈ front, key.saidBy? given = none) (behind : List (String × String))
    (file : Table) : key.effective? (front ++ behind) file = key.effective? behind file := by
  rw [effective?, List.findSome?_append, List.findSome?_eq_none_iff.mpr silent, Option.none_or,
    ← effective?]

end Key

theorem lookup_settle (table : Table) (key : Key) :
    (Name.settle table).lookup key.name = table.findSome? key.saidIn? := by
  rw [List.lookup_eq_findSome?, Name.settle, List.findSome?_map]
  congr 1
  funext ⟨name, value⟩
  simp only [Function.comp_apply, Key.saidIn?, ← @Name.target_eq_false_iff key,
    ← @Name.target_eq_true_iff key]
  match Name.target name with
  | (setting, inside) =>
    by_cases same : key.name = setting
    · subst same
      cases inside <;> simp
    · have other : setting ≠ key.name := fun equal => same equal.symm
      cases inside <;> simp [same, other]

theorem lookup_ofVariables (environment : List (String × String)) (key : Key) :
    (Name.settle (ofVariables environment)).lookup key.name =
      environment.findSome? key.saidBy? := by
  rw [lookup_settle, ← List.head?_filterMap, ← List.head?_filterMap, ofVariables,
    List.filterMap_filterMap]
  congr 2
  funext ⟨name, written⟩
  exact Option.bind_map

namespace Layers

variable {layers : Layers}

theorem get?_settle (environment : List (String × String)) (file : Table) (key : Key) :
    (Layers.mk (Name.settle (ofVariables environment)) (Name.settle file)).get? key.name =
      key.effective? environment file := by
  rw [get?, lookup_ofVariables, lookup_settle, Key.effective?]

/-- What the layers make of a setting, unless the value that counts for it does not convert. -/
def datum? (layers : Layers) (key : Key) : Option Datum :=
  key.datum? (layers.get? key.name)

section

variable {α : Type} {kind : Kind α} {datum : α → Datum} {key : Key}
  (converts : ∀ value, key.convert? value = (kind.convert? value).map datum)

include converts

theorem setting_eq_ok_iff (injective : Function.Injective datum) {default result : α}
    (inbuilt : builtIn.datum key = datum default) :
    layers.setting kind key.name default = .ok result ↔
      layers.datum? key = some (datum result) := by
  rw [setting, datum?]
  cases layers.get? key.name with
  | none => simp [Key.datum?, inbuilt, injective.eq_iff]
  | some value =>
    cases found : kind.convert? value <;>
      simp [Key.datum?, converts, found, injective.eq_iff]

theorem setting_failsOnly (default : α) :
    FailsOnly (fun _ => ∃ key, layers.datum? key = none)
      (layers.setting kind key.name default) := by
  intro failure failed
  refine ⟨key, ?_⟩
  rw [setting] at failed
  rw [datum?]
  cases counts : layers.get? key.name with
  | none => simp [counts] at failed
  | some value =>
    cases found : kind.convert? value with
    | none => simp [Key.datum?, converts, found]
    | some result => simp [counts, found] at failed

end

theorem settings_eq_ok_iff {settings : Settings} : layers.settings = .ok settings ↔
    ∀ key, layers.datum? key = some (settings.datum key) := by
  have numbers : Function.Injective Datum.word := fun _ _ => Datum.word.inj
  have texts : Function.Injective Datum.text := fun _ _ => Datum.text.inj
  constructor
  · intro done
    obtain ⟨_, first, done⟩ := bind_ok_iff.mp done
    obtain ⟨_, second, done⟩ := bind_ok_iff.mp done
    obtain ⟨_, third, done⟩ := bind_ok_iff.mp done
    obtain ⟨_, fourth, done⟩ := bind_ok_iff.mp done
    obtain ⟨_, fifth, done⟩ := bind_ok_iff.mp done
    obtain ⟨_, sixth, done⟩ := bind_ok_iff.mp done
    obtain ⟨_, seventh, done⟩ := bind_ok_iff.mp done
    obtain ⟨_, eighth, done⟩ := bind_ok_iff.mp done
    obtain ⟨_, ninth, done⟩ := bind_ok_iff.mp done
    cases done
    intro key
    cases key with
    | maxSearchResults => exact (setting_eq_ok_iff (fun _ => rfl) numbers rfl).mp first
    | selfId => exact (setting_eq_ok_iff (fun _ => rfl) numbers rfl).mp second
    | modChannelId => exact (setting_eq_ok_iff (fun _ => rfl) numbers rfl).mp third
    | spoilerChannelId => exact (setting_eq_ok_iff (fun _ => rfl) numbers rfl).mp fourth
    | commandTrigger => exact (setting_eq_ok_iff (fun _ => rfl) texts rfl).mp fifth
    | displayRows => exact (setting_eq_ok_iff (fun _ => rfl) numbers rfl).mp sixth
    | fuzzyLimit => exact (setting_eq_ok_iff (fun _ => rfl) numbers rfl).mp seventh
    | database => exact (setting_eq_ok_iff (fun _ => rfl) texts rfl).mp eighth
    | log => exact (setting_eq_ok_iff (fun _ => rfl) texts rfl).mp ninth
  · intro each
    have is {α : Type} (key : Key) {kind : Kind α} {datum : α → Datum} {default result : α}
        (converts : ∀ value, key.convert? value = (kind.convert? value).map datum)
        (injective : Function.Injective datum) (inbuilt : builtIn.datum key = datum default)
        (same : settings.datum key = datum result) :
        layers.setting kind key.name default = .ok result :=
      (setting_eq_ok_iff converts injective inbuilt).mpr (same ▸ each key)
    refine bind_ok_iff.mpr ⟨_, is .maxSearchResults (fun _ => rfl) numbers rfl rfl, ?_⟩
    refine bind_ok_iff.mpr ⟨_, is .selfId (fun _ => rfl) numbers rfl rfl, ?_⟩
    refine bind_ok_iff.mpr ⟨_, is .modChannelId (fun _ => rfl) numbers rfl rfl, ?_⟩
    refine bind_ok_iff.mpr ⟨_, is .spoilerChannelId (fun _ => rfl) numbers rfl rfl, ?_⟩
    refine bind_ok_iff.mpr ⟨_, is .commandTrigger (fun _ => rfl) texts rfl rfl, ?_⟩
    refine bind_ok_iff.mpr ⟨_, is .displayRows (fun _ => rfl) numbers rfl rfl, ?_⟩
    refine bind_ok_iff.mpr ⟨_, is .fuzzyLimit (fun _ => rfl) numbers rfl rfl, ?_⟩
    refine bind_ok_iff.mpr ⟨_, is .database (fun _ => rfl) texts rfl rfl, ?_⟩
    refine bind_ok_iff.mpr ⟨_, is .log (fun _ => rfl) texts rfl rfl, ?_⟩
    rfl

theorem settings_failsOnly :
    FailsOnly (fun _ => ∃ key, layers.datum? key = none) layers.settings := by
  have numbers (key : Key)
      (converts : ∀ value, key.convert? value = (Kind.number.convert? value).map .word) :=
    @setting_failsOnly layers _ _ _ _ converts
  have texts (key : Key)
      (converts : ∀ value, key.convert? value = (Kind.text.convert? value).map .text) :=
    @setting_failsOnly layers _ _ _ _ converts
  refine (numbers .maxSearchResults (fun _ => rfl) _).bind fun _ _ => ?_
  refine (numbers .selfId (fun _ => rfl) _).bind fun _ _ => ?_
  refine (numbers .modChannelId (fun _ => rfl) _).bind fun _ _ => ?_
  refine (numbers .spoilerChannelId (fun _ => rfl) _).bind fun _ _ => ?_
  refine (texts .commandTrigger (fun _ => rfl) _).bind fun _ _ => ?_
  refine (numbers .displayRows (fun _ => rfl) _).bind fun _ _ => ?_
  refine (numbers .fuzzyLimit (fun _ => rfl) _).bind fun _ _ => ?_
  refine (texts .database (fun _ => rfl) _).bind fun _ _ => ?_
  refine (texts .log (fun _ => rfl) _).bind fun _ _ => ?_
  exact .ok _

end Layers

/-- What the settings file says, which is nothing where there is none. -/
inductive Reads (elsewhere : Reader) (files : Files) (path : String) : Table → Prop
  | absent (missing : find? files path = none) : Reads elsewhere files path []
  | present {format : Format} {content : String} {file : Table}
    (found : find? files path = some (format, content))
    (read : format.read? elsewhere (withoutMark content.toList) = some file) :
    Reads elsewhere files path file

/-- There is a settings file, and it cannot be read. -/
def Unreadable (elsewhere : Reader) (files : Files) (path : String) : Prop :=
  ∃ format content, find? files path = some (format, content) ∧
    format.read? elsewhere (withoutMark content.toList) = none

/-- A setting of which the variables say the same and, where they say nothing, the files do. -/
structure Key.Agree (key : Key) (environment others : List (String × String))
    (file other : Table) : Prop where
  inEnvironment : environment.filterMap key.saidBy? = others.filterMap key.saidBy?
  inFile : environment.filterMap key.saidBy? = [] →
    file.filterMap key.saidIn? = other.filterMap key.saidIn?

theorem Key.Agree.effective?_eq {key : Key} {environment others : List (String × String)}
    {file other : Table} (agree : key.Agree environment others file other) :
    key.effective? environment file = key.effective? others other := by
  simp only [effective?, ← List.head?_filterMap, ← agree.inEnvironment]
  cases said : environment.filterMap key.saidBy? with
  | nil => rw [agree.inFile said]
  | cons value values => rfl

section

variable {elsewhere : Reader} {files : Files} {path : String} {file : Table}

theorem unreadable_or_reads (elsewhere : Reader) (files : Files) (path : String) :
    Unreadable elsewhere files path ∨ ∃ file, Reads elsewhere files path file := by
  cases found : find? files path with
  | none => exact .inr ⟨[], .absent found⟩
  | some document =>
    obtain ⟨format, content⟩ := document
    cases read : format.read? elsewhere (withoutMark content.toList) with
    | none => exact .inl ⟨format, content, found, read⟩
    | some file => exact .inr ⟨file, .present found read⟩

theorem ofFiles_of_unreadable (unreadable : Unreadable elsewhere files path) :
    ∃ failure, ofFiles elsewhere files path = .error failure := by
  obtain ⟨format, content, found, read⟩ := unreadable
  exact ⟨_, by rw [ofFiles, found]; simp only [read]; rfl⟩

theorem ofFiles_of_reads (reads : Reads elsewhere files path file) :
    ofFiles elsewhere files path = .ok (Name.settle file) := by
  cases reads with
  | absent missing => rw [ofFiles, missing]; rfl
  | present found read => rw [ofFiles, found]; simp only [read]

theorem load_of_unreadable (unreadable : Unreadable elsewhere files path)
    (environment : List (String × String)) :
    ∃ failure, load elsewhere files path environment = .error failure := by
  obtain ⟨failure, failed⟩ := ofFiles_of_unreadable unreadable
  exact ⟨failure, by rw [load, failed]; rfl⟩

theorem load_of_reads (reads : Reads elsewhere files path file)
    (environment : List (String × String)) :
    load elsewhere files path environment =
      Layers.settings ⟨Name.settle (ofVariables environment), Name.settle file⟩ := by
  rw [load, ofFiles_of_reads reads]
  rfl

theorem load_eq_ok_iff (reads : Reads elsewhere files path file)
    {environment : List (String × String)} {settings : Settings} :
    load elsewhere files path environment = .ok settings ↔
      ∀ key : Key, key.datum? (key.effective? environment file) = some (settings.datum key) := by
  simp only [load_of_reads reads, Layers.settings_eq_ok_iff, Layers.datum?, Layers.get?_settle]

theorem load_eq_error_iff (reads : Reads elsewhere files path file)
    {environment : List (String × String)} :
    (∃ failure, load elsewhere files path environment = .error failure) ↔
      ∃ key : Key, key.datum? (key.effective? environment file) = none := by
  constructor
  · rintro ⟨failure, failed⟩
    rw [load_of_reads reads] at failed
    obtain ⟨key, unset⟩ := Layers.settings_failsOnly failure failed
    rw [Layers.datum?, Layers.get?_settle] at unset
    exact ⟨key, unset⟩
  · rintro ⟨key, unset⟩
    cases done : load elsewhere files path environment with
    | error failure => exact ⟨failure, rfl⟩
    | ok settings =>
      have told := (load_eq_ok_iff reads).mp done key
      rw [unset] at told
      cases told

end

/-- Settings are layered one by one. Loading fails exactly where a settings file cannot be read or
the value that counts for some setting does not convert, and otherwise each setting is what the
value that counts for it converts to. So whatever changes in the environment and in the files, a
setting of which they say the same stays as it is, and if they say the same of all of them, loading
does as well as before. -/
theorem load_by_key (elsewhere : Reader) (files : Files) (path : String)
    (environment : List (String × String)) :
    ((∃ failure, load elsewhere files path environment = .error failure) ↔
      Unreadable elsewhere files path ∨ ∃ file, Reads elsewhere files path file ∧
        ∃ key : Key, key.datum? (key.effective? environment file) = none) ∧
    (∀ settings, load elsewhere files path environment = .ok settings ↔
      ∃ file, Reads elsewhere files path file ∧
        ∀ key : Key, key.datum? (key.effective? environment file) = some (settings.datum key)) ∧
    ∀ file files' path' environment' file', Reads elsewhere files path file →
      Reads elsewhere files' path' file' →
      (∀ key settings settings', key.Agree environment environment' file file' →
        load elsewhere files path environment = .ok settings →
        load elsewhere files' path' environment' = .ok settings' →
        settings.datum key = settings'.datum key) ∧
      ((∀ key : Key, key.Agree environment environment' file file') → ∀ settings,
        load elsewhere files path environment = .ok settings ↔
          load elsewhere files' path' environment' = .ok settings) := by
  refine ⟨⟨?_, ?_⟩, fun settings => ⟨?_, ?_⟩, ?_⟩
  · intro failed
    rcases unreadable_or_reads elsewhere files path with unreadable | ⟨file, reads⟩
    · exact .inl unreadable
    · exact .inr ⟨file, reads, (load_eq_error_iff reads).mp failed⟩
  · rintro (unreadable | ⟨file, reads, unset⟩)
    · exact load_of_unreadable unreadable environment
    · exact (load_eq_error_iff reads).mpr unset
  · intro done
    rcases unreadable_or_reads elsewhere files path with unreadable | ⟨file, reads⟩
    · obtain ⟨failure, failed⟩ := load_of_unreadable unreadable environment
      rw [done] at failed
      cases failed
    · exact ⟨file, reads, (load_eq_ok_iff reads).mp done⟩
  · rintro ⟨file, reads, told⟩
    exact (load_eq_ok_iff reads).mpr told
  · intro file files' path' environment' file' reads reads'
    constructor
    · intro key settings settings' agree done done'
      have told := (load_eq_ok_iff reads).mp done key
      rw [agree.effective?_eq, (load_eq_ok_iff reads').mp done' key] at told
      exact (Option.some.inj told).symm
    · intro agree settings
      rw [load_eq_ok_iff reads, load_eq_ok_iff reads']
      exact forall_congr' fun key => by rw [(agree key).effective?_eq]

/-- A file value that does not convert does no harm once a variable overrides it, a variable that
speaks of no setting does none either, and one of another value changes its own setting only. -/
theorem load_by_key_overridden :
    let elsewhere : Reader := fun _ _ => none
    let files := [("chatsearch.toml", "self_id = []")]
    let path := "./chatsearch"
    let environment := [("CHATSEARCH_SELF_ID", "7")]
    let beside := ("CHATSEARCH_COLOUR", "red") :: environment
    let changed := [("CHATSEARCH_SELF_ID", "8")]
    let settings := { builtIn with selfId := 7 }
    (∃ failure, load elsewhere files path [] = .error failure) ∧
      load elsewhere files path environment = .ok settings ∧
      load elsewhere [] path beside = .ok settings ∧
      ∃ other, load elsewhere [] path changed = .ok other ∧
        ∀ key, key ≠ .selfId → settings.datum key = other.datum key := by
  intro elsewhere files path environment beside changed settings
  let file : Table := [("self_id", .composite)]
  have reads : Reads elsewhere files path file :=
    @Reads.present _ _ _ .toml "self_id = []" _ (by decide +kernel) (by decide +kernel)
  have absent : Reads elsewhere [] path [] := .absent (by decide +kernel)
  have names : keyOfVariable? "CHATSEARCH_SELF_ID" = some Key.selfId.name := by decide +kernel
  have colour : ∀ key : Key, key.saidBy? ("CHATSEARCH_COLOUR", "red") = none := by
    have unknown : keyOfVariable? "CHATSEARCH_COLOUR" = some "colour" := by decide +kernel
    intro key
    rw [Key.saidBy?, unknown]
    cases key <;> decide
  have said (key : Key) (written : String) : key.saidBy? ("CHATSEARCH_SELF_ID", written) =
      if key = .selfId then some (.ofVariable written) else none :=
    Key.saidBy?_of_names names
  have bad : Key.selfId.datum? (Key.selfId.effective? [] file) = none := by decide
  have told : ∀ key : Key, key.datum? (key.effective? environment file) =
      some (settings.datum key) := by
    intro key
    rw [Key.effective?, List.findSome?_cons, said]
    cases key <;> decide +kernel
  have done : load elsewhere files path environment = .ok settings :=
    ((load_by_key elsewhere files path environment).2.1 settings).mpr ⟨file, reads, told⟩
  have agree (key : Key) : key.Agree environment beside file [] := by
    constructor
    · simp only [beside, List.filterMap_cons, colour]
    · simp only [environment, List.filterMap_cons, said]
      cases key <;> decide
  have frame := (load_by_key elsewhere files path environment).2.2 file [] path
  refine ⟨(load_by_key elsewhere files path []).1.mpr (.inr ⟨file, reads, _, bad⟩), done,
    ((frame beside [] reads absent).2 agree settings).mp done,
    { builtIn with selfId := 8 }, by decide +kernel, ?_⟩
  intro key other
  refine (frame changed [] reads absent).1 key settings _ ?_ done (by decide +kernel)
  constructor
  · simp only [environment, changed, List.filterMap_cons, said, if_neg other]
  · intro _
    cases key <;> first | exact absurd rfl other | decide

/-- A name that goes on behind the name of a setting is not the name of any setting, and yet loading
fails with it. -/
theorem load_inside_setting :
    let elsewhere : Reader := fun _ _ => none
    let environment := [("CHATSEARCH_DISPLAY_ROWS.X", "1")]
    find? [] "./chatsearch" = none ∧
      (∀ key : Key, ∀ given ∈ environment, keyOfVariable? given.1 ≠ some key.name) ∧
      load elsewhere [] "./chatsearch" [] = .ok builtIn ∧
      load elsewhere [] "./chatsearch" environment =
        .error (.settings "no number for display_rows") := by
  intro elsewhere environment
  have inside : keyOfVariable? "CHATSEARCH_DISPLAY_ROWS.X" = some "display_rows.x" := by
    decide +kernel
  refine ⟨by decide +kernel, ?_, by decide +kernel, by decide +kernel⟩
  intro key given mem
  rw [List.mem_singleton.mp mem, inside]
  cases key <;> decide

end ChatLog.Settings
