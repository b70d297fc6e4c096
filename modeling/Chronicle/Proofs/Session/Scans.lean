import Chronicle.Proofs.Session.Pending
import Chronicle.Session.Basic
import Mathlib.Logic.Relation

/-!
# What the scans of a log find

Whether a span is pending, and which feature has been reached, is found by scanning a log backward
for the last message that has a say in it; `latest?` is what that message says. So one more message
changes the answer only if it has a say itself, messages without a say may come and go anywhere, and
a value that is kept up to date as the log grows is always the one that the scans find:
`Session.incremental_scans`.
-/
namespace Chronicle

/-! ### The last message with a say -/

section

variable {β : Type} (tells : Message → Option β)

/-- What the last of the messages says that say anything. -/
def latest? (log : List Message) : Option β :=
  log.reverse.findSome? tells

/-- The last message has the say if it has one. -/
private theorem latest?_snoc (log : List Message) (m : Message) :
    latest? tells (log ++ [m]) = (tells m).or (latest? tells log) := by
  rw [latest?, List.reverse_append, List.reverse_singleton, List.singleton_append,
    List.findSome?_cons]
  cases tells m <;> rfl

/-- The backward scan finds what is kept up to date going forward. -/
private theorem latest?_eq_foldl (log : List Message) :
    latest? tells log = log.foldl (fun last m => (tells m).or last) none := by
  induction log using List.reverseRecOn with
  | nil => rfl
  | append_singleton log m ih => rw [latest?_snoc, ih, List.foldl_append]; rfl

variable {tells}

/-- What is found comes from a message after which none has a say. -/
private theorem latest?_eq_some_iff {log : List Message} {b : β} :
    latest? tells log = some b
      ↔ ∃ before m after, log = before ++ m :: after ∧ tells m = some b
        ∧ ∀ m' ∈ after, tells m' = none := by
  rw [latest?, List.findSome?_eq_some_iff]
  constructor
  · rintro ⟨l₁, m, l₂, hlog, hm, hnone⟩
    refine ⟨l₂.reverse, m, l₁.reverse, ?_, hm, fun m' hm' => hnone m' (List.mem_reverse.1 hm')⟩
    simpa using congrArg List.reverse hlog
  · rintro ⟨before, m, after, rfl, hm, hnone⟩
    refine ⟨after.reverse, m, before.reverse, by simp, hm, fun m' hm' => ?_⟩
    exact hnone m' (List.mem_reverse.1 hm')

end

/-! ### Messages that come and go -/

/-- A message of a class is put into a log, in any place. -/
inductive Inserts (quiet : Message → Prop) : List Message → List Message → Prop
  | between (before after : List Message) {m : Message} (hm : quiet m) :
    Inserts quiet (before ++ after) (before ++ m :: after)

/-- Messages of a class are put into a log and taken out of it, in any places. -/
abbrev Edits (quiet : Message → Prop) : List Message → List Message → Prop :=
  Relation.EqvGen (Inserts quiet)

/-- Messages without a say may come and go. -/
private theorem latest?_of_edits {β : Type} {tells : Message → Option β} {quiet : Message → Prop}
    (hquiet : ∀ m, quiet m → tells m = none) {log log' : List Message} (h : Edits quiet log log') :
    latest? tells log' = latest? tells log := by
  induction h with
  | rel log log' h =>
    obtain ⟨before, after, hm⟩ := h
    simp [latest?, hquiet _ hm]
  | refl => rfl
  | symm _ _ _ ih => exact ih.symm
  | trans _ _ _ _ _ ih ih' => exact ih'.trans ih

/-! ### Pending spans -/

namespace Span

/-- Whether a message leaves a span pending, if it starts or ends one. -/
def pending? (span : Span) (m : Message) : Option Bool :=
  if m.kind = span.opens then some true else if m.kind = span.closes then some false else none

/-- Whether a span is pending after one more message. -/
def pendingAfter (span : Span) (pending : Bool) (m : Message) : Bool :=
  if m.kind = span.opens then true else if m.kind = span.closes then false else pending

/-- A message that opens a span makes it pending. -/
private theorem pending?_eq_true_iff {span : Span} {m : Message} :
    span.pending? m = some true ↔ m.kind = span.opens := by
  unfold pending?
  split
  · simp [*]
  · split <;> simp [*, span.opens_ne_closes.symm]

/-- A message that neither opens nor closes a span has no say in it. -/
private theorem pending?_eq_none_iff {span : Span} {m : Message} :
    span.pending? m = none ↔ m.kind ≠ span.opens ∧ m.kind ≠ span.closes := by
  unfold pending?
  split
  · simp [*]
  · split <;> simp [*]

end Span

/-- Whether a span is pending can be kept up to date. -/
private theorem isPending_eq_foldl (span : Span) (log : List Message) :
    isPending span log = log.foldl span.pendingAfter false := by
  induction log using List.reverseRecOn with
  | nil => rfl
  | append_singleton log m ih => rw [isPending_snoc, ih, List.foldl_append]; rfl

/-- Comparing the places of the last start and the last end finds which of them comes last. -/
private theorem isPending_eq_latest? (span : Span) (log : List Message) :
    isPending span log = (latest? span.pending? log).getD false := by
  induction log using List.reverseRecOn with
  | nil => rfl
  | append_singleton log m ih =>
    rw [isPending_snoc, latest?_snoc, Span.pending?, ih]
    split
    · rfl
    · split <;> rfl

/-- A span is pending just if it has been opened and nothing has had a say in it since. -/
private theorem isPending_iff {span : Span} {log : List Message} :
    isPending span log = true
      ↔ ∃ before m after, log = before ++ m :: after ∧ m.kind = span.opens
        ∧ ∀ m' ∈ after, m'.kind ≠ span.opens ∧ m'.kind ≠ span.closes := by
  have hlast : isPending span log = true ↔ latest? span.pending? log = some true := by
    rw [isPending_eq_latest?]
    cases latest? span.pending? log <;> simp
  rw [hlast, latest?_eq_some_iff]
  simp only [Span.pending?_eq_true_iff, Span.pending?_eq_none_iff]

/-! ### The feature -/

/-- Only a suite that is a feature tells one. -/
private theorem Message.feature?_eq_some_iff {m : Message} {name : String} :
    m.feature? = some name ↔ m = .suiteStart name true := by
  unfold feature?
  split <;> simp_all

/-- No other message has a say in it. -/
private theorem Message.feature?_eq_none_iff {m : Message} :
    m.feature? = none ↔ ∀ name, m ≠ .suiteStart name true := by
  simp only [Option.eq_none_iff_forall_ne_some, ne_eq, Message.feature?_eq_some_iff]

/-- The current feature is that of the last suite that is one. -/
private theorem currentFeature_eq_some_iff {log : List Message} {name : String} :
    currentFeature log = some name
      ↔ ∃ before after, log = before ++ .suiteStart name true :: after
        ∧ ∀ m ∈ after, ∀ name', m ≠ .suiteStart name' true := by
  have hlast : currentFeature log = latest? Message.feature? log := rfl
  rw [hlast, latest?_eq_some_iff]
  simp only [Message.feature?_eq_some_iff, Message.feature?_eq_none_iff]
  constructor
  · rintro ⟨before, m, after, hlog, rfl, hnone⟩
    exact ⟨before, after, hlog, hnone⟩
  · rintro ⟨before, after, hlog, hnone⟩
    exact ⟨before, _, after, hlog, rfl, hnone⟩

/-! ### Sessions -/

/-- A span is pending in a session if and only if the last message that starts or ends one is a
start. Pushing a start makes it pending, pushing an end makes it not pending, and all other messages
leave it as it is: a pushed one, and any that are put into the log or taken out of it. The feature
of the session is that of the last suite that stands for one, whatever other messages come or go,
ends of suites among them. Both are what folding over the log from its beginning gives. -/
theorem Session.incremental_scans (s : Session) (span : Span) :
    (s.isPending span = true
        ↔ ∃ before m after, s.log = before ++ m :: after ∧ m.kind = span.opens
          ∧ ∀ m' ∈ after, m'.kind ≠ span.opens ∧ m'.kind ≠ span.closes)
      ∧ (∀ m : Message, m.kind = span.opens → (s.push m).isPending span = true)
      ∧ (∀ m : Message, m.kind = span.closes → (s.push m).isPending span = false)
      ∧ (∀ m : Message, m.kind ≠ span.opens → m.kind ≠ span.closes →
        (s.push m).isPending span = s.isPending span)
      ∧ (∀ log, Edits (fun m => m.kind ≠ span.opens ∧ m.kind ≠ span.closes) s.log log →
        Chronicle.isPending span log = s.isPending span)
      ∧ s.isPending span = s.log.foldl span.pendingAfter false
      ∧ (∀ name, s.currentFeature = some name
        ↔ ∃ before after, s.log = before ++ .suiteStart name true :: after
          ∧ ∀ m ∈ after, ∀ name', m ≠ .suiteStart name' true)
      ∧ (∀ log, Edits (fun m => ∀ name, m ≠ .suiteStart name true) s.log log →
        Chronicle.currentFeature log = s.currentFeature)
      ∧ s.currentFeature = s.log.foldl (fun last m => m.feature?.or last) none := by
  -- one more message is one step of the value that is kept up to date
  have hpush : ∀ m, (s.push m).isPending span = span.pendingAfter (s.isPending span) m :=
    isPending_snoc span s.log
  refine ⟨isPending_iff, fun m hm => ?_, fun m hm => ?_, fun m hm hm' => ?_, fun log hlog => ?_,
    isPending_eq_foldl span s.log, fun name => currentFeature_eq_some_iff, fun log hlog => ?_,
    latest?_eq_foldl _ s.log⟩
  · rw [hpush, Span.pendingAfter, if_pos hm]
  · have hne : m.kind ≠ span.opens := hm ▸ span.opens_ne_closes.symm
    rw [hpush, Span.pendingAfter, if_neg hne, if_pos hm]
  · rw [hpush, Span.pendingAfter, if_neg hm, if_neg hm']
  · rw [Session.isPending, isPending_eq_latest?, isPending_eq_latest?,
      latest?_of_edits (fun _ => Span.pending?_eq_none_iff.2) hlog]
  · exact latest?_of_edits (fun _ => Message.feature?_eq_none_iff.2) hlog

/-- The test is pending whatever suites do, and the feature is known without its end. -/
theorem Session.incremental_scans_of_feature :
    ∃ s : Session, s.log = [.suiteStart "f" true, .testStart "a" 1, .suiteEnd]
      ∧ (s.push (.testStart "b" 2)).isPending .test = true
      ∧ (s.push (.testEnd { status := .passed, stop := 3 })).isPending .test = false
      ∧ (s.push .suiteEnd).isPending .test = s.isPending .test
      ∧ Chronicle.isPending .test [.testStart "a" 1, .suiteEnd] = s.isPending .test
      ∧ Chronicle.currentFeature [.suiteStart "f" true, .testStart "a" 1] = s.currentFeature := by
  let s : Session :=
    { contextId := "main", log := [.suiteStart "f" true, .testStart "a" 1, .suiteEnd] }
  obtain ⟨-, hopens, hcloses, hother, hedits, -, -, hfeature, -⟩ :=
    Session.incremental_scans s .test
  refine ⟨s, rfl, hopens _ rfl, hcloses _ rfl, hother _ (by decide) (by decide), ?_, ?_⟩
  -- the feature that is taken out does not matter to the test
  · exact hedits _ (.symm _ _ (.rel _ _ (.between [] [.testStart "a" 1, .suiteEnd] (by decide))))
  -- nor does the end of the suite to the feature
  · have hend : ∀ name, Message.suiteEnd ≠ .suiteStart name true := nofun
    have hinsert : Inserts (fun m => ∀ name, m ≠ .suiteStart name true)
        [.suiteStart "f" true, .testStart "a" 1]
        [.suiteStart "f" true, .testStart "a" 1, .suiteEnd] :=
      .between [.suiteStart "f" true, .testStart "a" 1] [] hend
    exact hfeature _ (.symm _ _ (.rel _ _ hinsert))

end Chronicle
