import ChatLog.Proofs.Grammar

/-!
Groups of users and of channels. A word that joins its pieces by pipes asks for what the pieces ask
for as words of their own, in their order: whatever stands before and behind it, however many
pieces there are and however many blanks stand next to the pipes. A piece that cannot be read, or a
word behind the group, is told in the same way.
-/
namespace ChatLog.Request

/-- Adding what each item gives, one after the other, is adding it all in the end. -/
theorem foldlM_eq_mapM {α β γ : Type} (step : α → Except Failure β) (plus : γ → β → γ)
    (items : List α) (total : γ) :
    items.foldlM (fun total item => return plus total (← step item)) total =
      (do return (← items.mapM step).foldl plus total) := by
  induction items generalizing total with
  | nil => rfl
  | cons item items ih =>
    rw [List.foldlM_cons, List.mapM_cons]
    cases done : step item with
    | error failure => rfl
    | ok result =>
      have rest := ih (plus total result)
      simp only [bind, Except.bind, pure, Except.pure] at rest ⊢
      rw [rest]
      cases items.mapM step <;> rfl

def adding (request : Request) (word : String) : Except Failure Request := do
  return request.add (← Part.read word)

theorem ofWords_eq_foldlM (words : List String) : ofWords words = words.foldlM adding empty :=
  (foldlM_eq_mapM Part.read add words empty).symm

namespace Part

structure IsPiece (text : String) : Prop where
  whole : '|' ∉ text.toList
  first : ∀ c ∈ text.toList.head?, ¬ Text.isBlank c
  last : ∀ c ∈ text.toList.getLast?, ¬ Text.isBlank c

theorem isPiece_iff {text : String} : IsPiece text ↔ '|' ∉ text.toList ∧
    text.toList.head?.all (!Text.isBlank ·) ∧ text.toList.getLast?.all (!Text.isBlank ·) := by
  simp only [Option.all_eq_true, Bool.not_eq_true', ← Bool.not_eq_true]
  exact ⟨fun ⟨whole, first, last⟩ => ⟨whole, first, last⟩,
    fun ⟨whole, first, last⟩ => ⟨whole, first, last⟩⟩

instance : DecidablePred IsPiece := fun _ =>
  decidable_of_iff _ isPiece_iff.symm

/-- A reference to users that is more than its opening. -/
structure IsReference (text : String) : Prop where
  opens : ['@'] <+: text.toList ∨ ['<', '@'] <+: text.toList
  more : text ≠ "@" ∧ text ≠ "<@"

instance : DecidablePred IsReference := fun text =>
  decidable_of_iff ((['@'] <+: text.toList ∨ ['<', '@'] <+: text.toList) ∧
      text ≠ "@" ∧ text ≠ "<@")
    ⟨fun ⟨opens, more⟩ => ⟨opens, more⟩, fun reference => ⟨reference.opens, reference.more⟩⟩

/-- Pieces joined by pipes, with blanks next to the pipes. -/
inductive Joins : List String → List Char → Prop
  | one (piece : String) : Joins [piece] piece.toList
  | more (piece : String) {before behind : List Char} {pieces : List String} {rest : List Char}
    (blank : ∀ c ∈ before ++ behind, Text.isBlank c) (joined : Joins pieces rest) :
    Joins (piece :: pieces) (piece.toList ++ before ++ '|' :: (behind ++ rest))

theorem Joins.exists_prefix {pieces : List String} {text : List Char}
    (joined : Joins pieces text) : ∃ piece ∈ pieces, piece.toList <+: text := by
  cases joined with
  | one piece => exact ⟨piece, List.mem_cons_self, List.prefix_rfl⟩
  | more piece blank joined =>
    refine ⟨piece, List.mem_cons_self, ?_⟩
    rw [List.append_assoc]
    exact List.prefix_append _ _

theorem IsPiece.trimmed {piece : String} (proper : IsPiece piece) {before behind : List Char}
    (leading : ∀ c ∈ before, Text.isBlank c) (trailing : ∀ c ∈ behind, Text.isBlank c) :
    Text.Trimmed (before ++ (piece.toList ++ behind)) piece.toList :=
  ⟨⟨before, behind, rfl, leading, trailing⟩, proper.first, proper.last⟩

theorem IsPiece.not_mem_padded {piece : String} (proper : IsPiece piece) {before behind : List Char}
    (leading : ∀ c ∈ before, Text.isBlank c) (trailing : ∀ c ∈ behind, Text.isBlank c) :
    '|' ∉ before ++ (piece.toList ++ behind) := by
  have absent {blanks : List Char} (blank : ∀ c ∈ blanks, Text.isBlank c) : '|' ∉ blanks :=
    fun member => absurd (blank _ member) (by decide)
  simp [absent leading, proper.whole, absent trailing]

/-- What is between the pipes of a group are its pieces and blanks around them. -/
theorem Joins.splitOn_trimmed {pieces : List String} {text : List Char}
    (joined : Joins pieces text) (proper : ∀ piece ∈ pieces, IsPiece piece) {lead : List Char}
    (leading : ∀ c ∈ lead, Text.isBlank c) :
    List.Forall₂ (fun part piece => Text.Trimmed part piece.toList)
      ((lead ++ text).splitOn '|') pieces := by
  -- the blanks behind a pipe lead the piece that follows it
  induction joined generalizing lead with
  | one piece =>
    have here := proper piece List.mem_cons_self
    have whole := here.not_mem_padded leading (List.forall_mem_nil _)
    have trimmed := here.trimmed leading (List.forall_mem_nil _)
    rw [List.append_nil] at whole trimmed
    rw [List.splitOn_eq_singleton whole]
    exact .cons trimmed .nil
  | @more piece before behind pieces rest blank joined ih =>
    have here := proper piece List.mem_cons_self
    obtain ⟨trailing, next⟩ := List.forall_mem_append.mp blank
    have single := List.splitOn_eq_singleton (here.not_mem_padded leading trailing)
    rw [← List.append_assoc, List.splitOn, List.splitOnP_append_cons _ _ (by decide),
      ← List.splitOn, single]
    exact .cons (here.trimmed leading trailing)
      (ih (fun piece member => proper piece (List.mem_cons_of_mem _ member)) next)

theorem Joins.alternatives {pieces : List String} {group : String}
    (joined : Joins pieces group.toList) (proper : ∀ piece ∈ pieces, IsPiece piece) :
    alternatives group = pieces :=
  alternatives_eq_iff.mpr (joined.splitOn_trimmed proper (List.forall_mem_nil _))

theorem IsPiece.alternatives {piece : String} (proper : IsPiece piece) :
    alternatives piece = [piece] :=
  (Joins.one piece).alternatives fun _ member => List.mem_singleton.mp member ▸ proper

theorem IsReference.kept {pieces : List String} (named : ∀ piece ∈ pieces, IsReference piece) :
    kept pieces = pieces := by
  apply List.filter_eq_self.mpr
  intro piece member
  have filled : piece ≠ "" := by
    rintro rfl
    simpa using (named "" member).opens
  simp [filled, (named piece member).more]

end Part

def addingChannel (request : Request) (piece : String) : Except Failure Request := do
  return { request with channels := request.channels.insert (← Part.readChannel piece) }

section

variable {pieces : List String} {word : String}

theorem adding_references (found : Part.alternatives word = pieces)
    (opens : ['@'] <+: word.toList ∨ ['<', '@'] <+: word.toList) (filled : pieces ≠ [])
    (named : ∀ piece ∈ pieces, Part.IsReference piece) (request : Request) :
    request.adding word = .ok { request with users := request.users ++ pieces } := by
  have read : Part.read word = .ok (.users pieces) := by
    rw [Part.read_users opens, Part.readUsers_eq (Part.alternatives_eq_iff.mp found),
      Part.IsReference.kept named, if_neg filled]
  rw [adding, read]
  rfl

theorem adding_channels (found : Part.alternatives word = pieces)
    (opens : ['<', '#'] <+: word.toList) (request : Request) :
    request.adding word = pieces.foldlM addingChannel request := by
  have all (ids : List Id) (request : Request) :
      ids.foldl (fun request id => { request with channels := request.channels.insert id })
        request = request.add (.channels ids) := by
    induction ids generalizing request with
    | nil => rfl
    | cons id ids ih => exact ih _
  have summed := foldlM_eq_mapM Part.readChannel
    (fun request id => { request with channels := request.channels.insert id }) pieces request
  simp only [all] at summed
  refine Eq.trans ?_ summed.symm
  rw [adding, Part.read_channels opens, Part.readChannels, found]
  cases pieces.mapM Part.readChannel <;> rfl

variable (proper : ∀ piece ∈ pieces, Part.IsPiece piece)

include proper

theorem foldlM_adding_references (named : ∀ piece ∈ pieces, Part.IsReference piece)
    (request : Request) :
    pieces.foldlM adding request = .ok { request with users := request.users ++ pieces } := by
  induction pieces generalizing request with
  | nil => simp [pure, Except.pure]
  | cons piece pieces ih =>
    obtain ⟨here, others⟩ := List.forall_mem_cons.mp proper
    obtain ⟨reference, references⟩ := List.forall_mem_cons.mp named
    have first := adding_references here.alternatives reference.opens (List.cons_ne_nil _ _)
      (fun _ member => List.mem_singleton.mp member ▸ reference) request
    rw [List.foldlM_cons, first]
    refine (ih others references _).trans ?_
    rw [List.append_assoc, List.singleton_append]

theorem foldlM_adding_channels (opens : ∀ piece ∈ pieces, ['<', '#'] <+: piece.toList)
    (request : Request) :
    pieces.foldlM adding request = pieces.foldlM addingChannel request := by
  induction pieces generalizing request with
  | nil => rfl
  | cons piece pieces ih =>
    obtain ⟨here, others⟩ := List.forall_mem_cons.mp proper
    obtain ⟨channel, channels⟩ := List.forall_mem_cons.mp opens
    have first := adding_channels here.alternatives channel request
    simp only [List.foldlM_cons, List.foldlM_nil, bind_pure] at first
    rw [List.foldlM_cons, List.foldlM_cons, first]
    exact bind_congr fun next => ih others channels next

end

/-- A group is one word or as many words as it has pieces, wherever it stands among other words:
either way they make the same request, or fail in the same way. Its pieces are references to users
or all open as mentions of channels do, whether or not they are mentions; they have no pipes in
them, and next to the pipes between them there may be any blanks. -/
theorem ofWords_group {pieces : List String} {group : String}
    (joined : Part.Joins pieces group.toList) (proper : ∀ piece ∈ pieces, Part.IsPiece piece)
    (alike : (∀ piece ∈ pieces, Part.IsReference piece) ∨
      ∀ piece ∈ pieces, ['<', '#'] <+: piece.toList) (before behind : List String) :
    ofWords (before ++ group :: behind) = ofWords (before ++ (pieces ++ behind)) := by
  have found : Part.alternatives group = pieces := joined.alternatives proper
  obtain ⟨piece, member, front⟩ := joined.exists_prefix
  have same (request : Request) : request.adding group = pieces.foldlM adding request := by
    rcases alike with named | opens
    · have opening := (named piece member).opens.imp (·.trans front) (·.trans front)
      rw [foldlM_adding_references proper named,
        adding_references found opening (List.ne_nil_of_mem member) named]
    · rw [foldlM_adding_channels proper opens,
        adding_channels found ((opens piece member).trans front)]
  simp only [ofWords_eq_foldlM, List.foldlM_append, List.foldlM_cons, same]

/-- Users in a group with blanks at its pipe, channels in one that names a channel twice, and one
that names no channel. -/
theorem ofWords_group_blanks :
    let users := ["@alice", "<@42>"]
    let channels := ["<#7>", "<#3>", "<#7>"]
    let strangers := ["<#7>", "<#general>"]
    (Part.Joins users "@alice \t|<@42>".toList ∧ (∀ piece ∈ users, Part.IsPiece piece) ∧
      (∀ piece ∈ users, Part.IsReference piece) ∧
      ofWords (["hi"] ++ "@alice \t|<@42>" :: ["@bob"]) =
        .ok ⟨["@alice", "<@42>", "@bob"], .empty, none, ["hi"], none⟩) ∧
    (Part.Joins channels "<#7>|<#3>|\u3000<#7>".toList ∧
      (∀ piece ∈ channels, Part.IsPiece piece) ∧ (∀ piece ∈ channels, ['<', '#'] <+: piece.toList) ∧
      ofWords (["<#5>"] ++ "<#7>|<#3>|\u3000<#7>" :: ["~5"]) =
        .ok ⟨[], .ofList [3, 5, 7], some 5, [], none⟩) ∧
    (Part.Joins strangers "<#7>|<#general>".toList ∧
      (∀ piece ∈ strangers, Part.IsPiece piece) ∧
      (∀ piece ∈ strangers, ['<', '#'] <+: piece.toList) ∧
      ofWords ([] ++ "<#7>|<#general>" :: ["*x"]) = .error (.unknownChannel "<#general>")) := by
  intro users channels strangers
  have pair : Part.Joins users "@alice \t|<@42>".toList :=
    @Part.Joins.more "@alice" [' ', '\t'] [] _ _ (List.all_eq_true.mp rfl) (.one "<@42>")
  have three : Part.Joins channels "<#7>|<#3>|\u3000<#7>".toList :=
    @Part.Joins.more "<#7>" [] [] _ _ (List.all_eq_true.mp rfl)
      (@Part.Joins.more "<#3>" [] ['\u3000'] _ _ (List.all_eq_true.mp rfl) (.one "<#7>"))
  have two : Part.Joins strangers "<#7>|<#general>".toList :=
    @Part.Joins.more "<#7>" [] [] _ _ (List.all_eq_true.mp rfl) (.one "<#general>")
  have people : ∀ piece ∈ users, Part.IsPiece piece := by decide
  have named : ∀ piece ∈ users, Part.IsReference piece := by decide
  have places : ∀ piece ∈ channels, Part.IsPiece piece := by decide
  have opened : ∀ piece ∈ channels, ['<', '#'] <+: piece.toList := by decide
  have others : ∀ piece ∈ strangers, Part.IsPiece piece := by decide
  have unknown : ∀ piece ∈ strangers, ['<', '#'] <+: piece.toList := by decide
  refine ⟨⟨pair, people, named, ?_⟩, ⟨three, places, opened, ?_⟩, two, others, unknown, ?_⟩
  · exact (ofWords_group pair people (Or.inl named) ["hi"] ["@bob"]).trans rfl
  · exact (ofWords_group three places (Or.inr opened) ["<#5>"] ["~5"]).trans rfl
  · exact (ofWords_group two others (Or.inr unknown) [] ["*x"]).trans rfl

end ChatLog.Request
