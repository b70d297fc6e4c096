import Chronicle.Proofs.Replay.Following
import Chronicle.Proofs.Report.Operations
import Chronicle.Proofs.Report.References
import Mathlib.Logic.Relation

/-!
# The steps of a report

`Backend.Step` lists what one operation can do to a report, wherever the report goes. What every
step keeps, everything keeps that is made of operations.

A report in a results directory goes through the same steps as one in memory, as long as files can
be saved: `Backend.callsFollow_reporter`. `Backend.forget` is what remains of it without the
directory.
-/
namespace Chronicle

namespace Backend

/-! ### Saving -/

/-- What saving a file does to a report. -/
inductive Saves (name : String) (content : Bytes) : Backend → Backend → Prop
  | memory {b : Backend} (hm : b.destination = .memory) : Saves name content b b
  | directory {b : Backend} {root : Path} {disk : FileTree} (hd : b.destination = .directory root)
      (hwrite : b.disk.write (root.child name).steps content = .ok disk) :
      Saves name content b { b with disk := disk, saved := b.saved ++ [(name, content)] }

/-- Some file cannot be saved. -/
def Obstructed (b : Backend) : Prop :=
  ∃ root name content o, b.destination = .directory root ∧ name ≠ ".."
    ∧ b.disk.write (root.child name).steps content = .error o

/-- The report without its results directory. -/
def forget (b : Backend) : Backend :=
  { b with destination := .memory, disk := {}, saved := [] }

variable {b b' : Backend} {h : Handle} {name : String} {content : Bytes}

/-- Saving a file leaves alone whatever is not on the disk. -/
theorem Saves.eq (hs : Saves name content b b') :
    ∃ disk saved, b' = { b with disk := disk, saved := saved } := by
  cases hs with
  | memory hm => exact ⟨b.disk, b.saved, rfl⟩
  | directory hd hwrite => exact ⟨_, _, rfl⟩

/-- What saves a file runs. -/
theorem Saves.runs (hs : Saves name content b b') : Runs (save name content) b () b' := by
  cases hs with
  | memory hm => exact runs_save hm name content
  | directory hd hwrite =>
    refine .bind (.get b) ?_
    simp only [hd, hwrite]
    rfl

/-- A file is saved, or else it cannot be. -/
private theorem saves_or_obstructed (hname : name ≠ "..") (content : Bytes) (b : Backend) :
    (∃ b', Saves name content b b')
      ∨ b.Obstructed ∧ ∃ e, save name content b = .error e b := by
  cases hd : b.destination with
  | memory => exact .inl ⟨b, .memory hd⟩
  | directory root =>
    cases hwrite : b.disk.write (root.child name).steps content with
    | ok disk => exact .inl ⟨_, .directory hd hwrite⟩
    -- the error of the write is the obstruction
    | error o =>
      refine .inr ⟨⟨root, name, content, o, hd, hname, hwrite⟩, .notWritten (root.child name), ?_⟩
      rw [save, (Runs.get b).bind_eq]
      simp only [hd, hwrite]
      rfl

/-! ### Steps -/

end Backend

/-- Whether a change of an open test leaves its handle alone and adds no reference. -/
structure OpenTest.KeepsRefs (f : OpenTest → OpenTest) : Prop where
  handle : ∀ t, (f t).result.handle = t.result.handle
  refs : ∀ t, ∀ ref ∈ (f t).refs, ref ∈ t.refs

/-- A change that keeps the contents of a test keeps what it refers to. -/
private theorem TestResult.KeepsContents.keepsRefs {f : TestResult → TestResult}
    (hf : KeepsContents f) :
    OpenTest.KeepsRefs (·.update f) := by
  refine ⟨fun t => hf.handle t.result, fun t ref href => ?_⟩
  rwa [OpenTest.refs, OpenTest.update, refs, hf.attachments, hf.steps] at href

namespace Backend

/-- One operation on a report that succeeds, or two that end a fixture. -/
inductive Step : Backend → Backend → Prop
  | startScope (b : Backend) : Step b
      { b with
        drawn := b.drawn + 1
        scopes := b.scopes.insert (.drawn b.drawn) ⟨.drawn b.drawn, [], [], []⟩
        calls := b.calls ++ [(.startScope, .drawn b.drawn)] }
  | writeScope {b b' : Backend} {h : Handle} {s : Scope} (hs : b.scopes.get? h = some s)
      (hsave : Saves (h.name ++ "-container.json") (Rendering.scopeJson (b.scopeResult s)).octets
        { b with scopes := b.scopes.remove h, calls := b.calls ++ [(.writeScope, h)] } b') :
      Step b { b' with writtenScopes := b'.writtenScopes ++ [s] }
  | startTest (b : Backend) (name : String) (start : Int) (scopes : List Handle) : Step b
      { b with
        drawn := b.drawn + 1
        tests := b.tests.insert (.drawn b.drawn)
          ⟨{ handle := .drawn b.drawn, name := name, start := start }, []⟩
        scopes := scopes.foldl
          (fun open_ s => open_.change s (·.addChild (.drawn b.drawn))) b.scopes
        calls := b.calls ++ [(.startTest, .drawn b.drawn)] }
  | changeTest {b : Backend} {h : Handle} {t : OpenTest} (ht : b.tests.get? h = some t)
      {op : Operation} (hop : op = .updateTest ∨ op = .stopTest ∨ op = .applyMessages)
      {f : OpenTest → OpenTest} (hf : OpenTest.KeepsRefs f) : Step b
      { b with tests := b.tests.change h f, calls := b.calls ++ [(op, h)] }
  | attach {b b' : Backend} {h : Handle} {t : OpenTest} (ht : b.tests.get? h = some t)
      (file : Attachment)
      (hsave : Saves (sourceName (.drawn b.drawn) file.contentType) file.content
        (b.withEntry h (.attachment file)) b') :
      Step b { b' with calls := b'.calls ++ [(.applyMessages, h)] }
  | writeTest {b b' : Backend} {h : Handle} {t : OpenTest} (ht : b.tests.get? h = some t)
      (hsave : Saves (h.name ++ "-result.json") (Rendering.testJson t.snapshot).octets
        { b with tests := b.tests.remove h, calls := b.calls ++ [(.writeTest, h)] } b') :
      Step b { b' with writtenTests := b'.writtenTests ++ [t.snapshot] }
  | startFixture {b : Backend} {h : Handle} (hh : b.scopes.has h = true) (kind : HookKind)
      (name : String) (start : Int) : Step b
      { b with
        drawn := b.drawn + 1
        scopes := b.scopes.change h (·.addFixture kind (.drawn b.drawn))
        fixtures := b.fixtures.insert (.drawn b.drawn)
          { handle := .drawn b.drawn, name := name, kind := kind, start := start }
        running := .drawn b.drawn :: b.running
        calls := b.calls ++ [(.startFixture, .drawn b.drawn)] }
  | endFixture {b : Backend} {h : Handle} (hh : h ∈ b.running)
      {f : FixtureResult → FixtureResult} (hf : FixtureResult.ChangesOutcome f)
      (stop duration : Option Int) : Step b
      { b with
        running := b.running.filter (· != h)
        fixtures := b.fixtures.change h fun r => (f r).stopped stop duration
        calls := b.calls ++ [(.updateFixture, h), (.stopFixture, h)] }
  | stopFixture {b : Backend} {h : Handle} (hh : h ∈ b.running)
      (stop duration : Option Int) : Step b
      { b with
        running := b.running.filter (· != h)
        fixtures := b.fixtures.change h (·.stopped stop duration)
        calls := b.calls ++ [(.stopFixture, h)] }

/-- Any number of steps. -/
abbrev Steps : Backend → Backend → Prop :=
  Relation.ReflTransGen Step

/-! ### Operations are steps -/

/-- What a report in memory has to do with the one that has gone through some steps: it is what
remains of it. -/
structure Mirrors (b₀ b v : Backend) : Prop where
  steps : Steps b₀ b
  forget : b.forget = v

/-- Some file could not be saved on the way. -/
def GetsStuck (b₀ : Backend) : Prop :=
  ∃ b, Steps b₀ b ∧ b.Obstructed

variable {b₀ b b' : Backend} {h : Handle} {name : String} {content : Bytes} {α : Type}

/-- It is enough that what runs in memory runs on the report by some steps, or finds its way
obstructed. -/
private theorem follows_of_steps {act : Reporting α}
    (hact : ∀ b a v', Runs act b.forget a v' →
      (∃ b', Runs act b a b' ∧ Steps b b' ∧ b'.forget = v')
        ∨ b.Obstructed ∧ ∃ e b', act b = .error e b') :
    Follows b₀.GetsStuck (Mirrors b₀) act act := by
  rintro b v ⟨hsteps, rfl⟩ a v' hruns
  rcases hact b a v' hruns with ⟨b', hb', hstep, hforget⟩ | ⟨hobstructed, herror⟩
  · exact .inl ⟨b', hb', hsteps.trans hstep, hforget⟩
  · exact .inr ⟨⟨b, hsteps, hobstructed⟩, herror⟩

/-- A call that saves a file goes on after that, or else the file cannot be saved. -/
private theorem runs_or_obstructed {act next : Reporting Unit} {b₁ v' : Backend}
    (hact : act b = (do save name content; next) b₁) (hname : name ≠ "..")
    (hobstructed : b₁.Obstructed → b.Obstructed)
    (hnext : ∀ b', Saves name content b₁ b' →
      ∃ b'', Runs next b' () b'' ∧ Step b b'' ∧ b''.forget = v') :
    (∃ b', Runs act b () b' ∧ Steps b b' ∧ b'.forget = v')
      ∨ b.Obstructed ∧ ∃ e b', act b = .error e b' := by
  rcases saves_or_obstructed hname content b₁ with ⟨b', hsave⟩ | ⟨hstuck, e, herror⟩
  · obtain ⟨b'', hruns, hstep, hforget⟩ := hnext b' hsave
    exact .inl ⟨b'', hact.trans (hsave.runs.bind hruns), .single hstep, hforget⟩
  · exact .inr ⟨hobstructed hstuck, e, b₁, hact.trans (error_of_bind herror _)⟩

/-! What a call needs to be open is open if the call succeeds, with a directory or without. -/

/-- What gets past the look-up of a scope has found one. -/
private theorem exists_scope_of_runs {next : Scope → Reporting α} {a : α}
    (hruns : Runs (openScope h >>= next) b.forget a b') : ∃ s, b.scopes.get? h = some s := by
  obtain ⟨s, b₁, hopen, -⟩ := hruns.exists_of_bind
  rw [Runs, openScope, (Runs.get b.forget).bind_eq] at hopen
  cases hget : b.forget.scopes.get? h with
  | none =>
    rw [hget] at hopen
    cases hopen
  | some s => exact ⟨s, hget⟩

/-- What gets past the look-up of a test has found one. -/
private theorem exists_test_of_runs {next : OpenTest → Reporting α} {a : α}
    (hruns : Runs (openTest h >>= next) b.forget a b') : ∃ t, b.tests.get? h = some t := by
  obtain ⟨t, b₁, hopen, -⟩ := hruns.exists_of_bind
  rw [Runs, openTest, (Runs.get b.forget).bind_eq] at hopen
  cases hget : b.forget.tests.get? h with
  | none =>
    rw [hget] at hopen
    cases hopen
  | some t => exact ⟨t, hget⟩

/-- What gets past the look-up of a fixture has found it running. -/
private theorem mem_running_of_runs {next : Unit → Reporting α} {a : α}
    (hruns : Runs (requireRunning h >>= next) b.forget a b') : h ∈ b.running := by
  obtain ⟨u, b₁, hrequire, -⟩ := hruns.exists_of_bind
  rw [Runs, requireRunning, (Runs.get b.forget).bind_eq] at hrequire
  by_cases hmem : b.forget.running.contains h = true
  · exact List.contains_iff_mem.1 hmem
  · rw [if_neg hmem] at hrequire
    cases hrequire

/-- No name that a replay gives to a file goes up. -/
theorem append_ne_dots (h : Handle) {ending : String} (hlength : 2 < ending.length) :
    h.name ++ ending ≠ ".." := by
  intro heq
  have hsame := congrArg String.length heq
  rw [String.length_append] at hsame
  have : "..".length = 2 := rfl
  omega

/-- A source never has the name of a directory above. -/
theorem sourceName_ne_dots (h : Handle) (contentType : String) :
    sourceName h contentType ≠ ".." := by
  rw [sourceName, String.append_assoc]
  refine append_ne_dots h ?_
  rw [String.length_append]
  have : "-attachment".length = 11 := rfl
  omega

/-- A scope starts as in memory, and no file is needed. -/
private theorem follows_startScope : Follows b₀.GetsStuck (Mirrors b₀) startScope startScope := by
  apply follows_of_steps
  intro b a v' hruns
  left
  obtain ⟨rfl, rfl⟩ := hruns.unique (runs_startScope b.forget)
  exact ⟨_, runs_startScope b, .single (.startScope b), rfl⟩

/-- A scope is written as in memory, if its file can be saved. -/
private theorem follows_writeScope (h : Handle) :
    Follows b₀.GetsStuck (Mirrors b₀) (writeScope h) (writeScope h) := by
  apply follows_of_steps
  intro b a v' hruns
  obtain ⟨s, hs⟩ := exists_scope_of_runs hruns
  obtain ⟨-, rfl⟩ := hruns.unique (runs_writeScope rfl hs)
  -- the scope is found, so the rest is the saving and the noting
  have hact : writeScope h b = (do
      save (h.name ++ "-container.json") (Rendering.scopeJson (b.scopeResult s)).octets
      modify fun b => { b with writtenScopes := b.writtenScopes ++ [s] } : Reporting Unit)
      { b with scopes := b.scopes.remove h, calls := b.calls ++ [(.writeScope, h)] } := by
    rw [writeScope, (runs_openScope hs).bind_eq]
    rfl
  -- the file may be obstructed, and then nothing else decides
  apply runs_or_obstructed hact (append_ne_dots h (by decide)) id
  intro b' hsave
  refine ⟨_, .change _ _, .writeScope hs hsave, ?_⟩
  obtain ⟨disk, saved, rfl⟩ := hsave.eq
  rfl

/-- A test starts as in memory. -/
private theorem follows_startTest (name : String) (start : Int) (scopes : List Handle) :
    Follows b₀.GetsStuck (Mirrors b₀) (startTest name start scopes)
      (startTest name start scopes) := by
  apply follows_of_steps
  intro b a v' hruns
  left
  obtain ⟨rfl, rfl⟩ := hruns.unique (runs_startTest b.forget name start scopes)
  exact ⟨_, runs_startTest b name start scopes, .single (.startTest b name start scopes), rfl⟩

/-- A test is changed as in memory, if its contents are kept. -/
private theorem follows_updateTest (h : Handle) {f : TestResult → TestResult}
    (hf : TestResult.KeepsContents f) :
    Follows b₀.GetsStuck (Mirrors b₀) (updateTest h f) (updateTest h f) := by
  apply follows_of_steps
  intro b a v' hruns
  left
  obtain ⟨t, ht⟩ := exists_test_of_runs hruns
  obtain ⟨-, rfl⟩ := hruns.unique (runs_updateTest (b := b.forget) ht f)
  exact ⟨_, runs_updateTest ht f, .single (.changeTest ht (.inl rfl) hf.keepsRefs), rfl⟩

/-- A test stops as in memory. -/
private theorem follows_stopTest (h : Handle) (stop duration : Option Int) :
    Follows b₀.GetsStuck (Mirrors b₀) (stopTest h stop duration) (stopTest h stop duration) := by
  apply follows_of_steps
  intro b a v' hruns
  left
  obtain ⟨t, ht⟩ := exists_test_of_runs hruns
  obtain ⟨-, rfl⟩ := hruns.unique (runs_stopTest (b := b.forget) ht stop duration)
  have hkeeps : TestResult.KeepsContents (·.stopped stop duration) :=
    ⟨fun _ => rfl, fun _ => rfl, fun _ => rfl⟩
  exact ⟨_, runs_stopTest ht stop duration,
    .single (.changeTest ht (.inr (.inl rfl)) hkeeps.keepsRefs), rfl⟩

/-- A test is written as in memory, if its file can be saved. -/
private theorem follows_writeTest (h : Handle) :
    Follows b₀.GetsStuck (Mirrors b₀) (writeTest h) (writeTest h) := by
  apply follows_of_steps
  intro b a v' hruns
  obtain ⟨t, ht⟩ := exists_test_of_runs hruns
  obtain ⟨-, rfl⟩ := hruns.unique (runs_writeTest rfl ht)
  -- as with a scope, the rest is the saving and the noting
  have hact : writeTest h b = (do
      save (h.name ++ "-result.json") (Rendering.testJson t.snapshot).octets
      modify fun b => { b with writtenTests := b.writtenTests ++ [t.snapshot] } : Reporting Unit)
      { b with tests := b.tests.remove h, calls := b.calls ++ [(.writeTest, h)] } := by
    rw [writeTest, (runs_openTest ht).bind_eq]
    rfl
  -- again only the file can be in the way
  apply runs_or_obstructed hact (append_ne_dots h (by decide)) id
  intro b' hsave
  refine ⟨_, .change _ _, .writeTest ht hsave, ?_⟩
  obtain ⟨disk, saved, rfl⟩ := hsave.eq
  rfl

/-- A fixture starts or is declined as in memory. -/
private theorem follows_startFixture (scope : Option Handle) (kind : HookKind) (name : String)
    (start : Int) :
    Follows b₀.GetsStuck (Mirrors b₀) (startFixture scope kind name start)
      (startFixture scope kind name start) := by
  apply follows_of_steps
  intro b a v' hruns
  left
  cases hscope : scope.filter b.scopes.has with
  | none =>
    -- no open scope, so nothing happens
    have hnone : ∀ b' : Backend, b'.scopes = b.scopes →
        Runs (startFixture scope kind name start) b' none b' := by
      intro b' heq
      refine .bind (.get b') ?_
      rw [heq, hscope]
      exact .pure none b'
    obtain ⟨rfl, rfl⟩ := hruns.unique (hnone b.forget rfl)
    exact ⟨b, hnone b rfl, .refl, rfl⟩
  -- with an open scope both sides start the fixture
  | some h =>
    obtain ⟨rfl, hh⟩ := Option.filter_eq_some_iff.1 hscope
    obtain ⟨rfl, rfl⟩ := hruns.unique (runs_startFixture (b := b.forget) hh kind name start)
    exact ⟨_, runs_startFixture hh kind name start, .single (.startFixture hh kind name start),
      rfl⟩

/-- A fixture is changed and stopped at one stroke. -/
private theorem runs_endFixture (hh : h ∈ b.running) (f : FixtureResult → FixtureResult)
    (stop duration : Option Int) :
    Runs (do updateFixture h f; stopFixture h stop duration) b ()
      { b with
        running := b.running.filter (· != h)
        fixtures := b.fixtures.change h fun r => (f r).stopped stop duration
        calls := b.calls ++ [(.updateFixture, h), (.stopFixture, h)] } := by
  have hupdate := runs_updateFixture hh f
  have hstop := runs_stopFixture
    (b := { b with fixtures := b.fixtures.change h f, calls := b.calls ++ [(.updateFixture, h)] })
    hh stop duration
  refine (hupdate.bind hstop).endsIn ?_
  simp only [Table.change_change, List.append_assoc, List.cons_append, List.nil_append]

/-- A fixture ends as in memory. -/
private theorem follows_endFixture (h : Handle) {f : FixtureResult → FixtureResult}
    (hf : FixtureResult.ChangesOutcome f) (stop duration : Option Int) :
    Follows b₀.GetsStuck (Mirrors b₀) (do updateFixture h f; stopFixture h stop duration)
      (do updateFixture h f; stopFixture h stop duration) := by
  apply follows_of_steps
  intro b a v' hruns
  left
  obtain ⟨_, _, hupdate, -⟩ := hruns.exists_of_bind
  have hh : h ∈ b.running := mem_running_of_runs hupdate
  obtain ⟨-, rfl⟩ := hruns.unique (runs_endFixture (b := b.forget) hh f stop duration)
  exact ⟨_, runs_endFixture hh f stop duration, .single (.endFixture hh hf stop duration), rfl⟩

/-- So does one that is only stopped. -/
private theorem follows_stopFixture (h : Handle) (stop duration : Option Int) :
    Follows b₀.GetsStuck (Mirrors b₀) (stopFixture h stop duration)
      (stopFixture h stop duration) := by
  apply follows_of_steps
  intro b a v' hruns
  left
  have hh : h ∈ b.running := mem_running_of_runs hruns
  obtain ⟨-, rfl⟩ := hruns.unique (runs_stopFixture (b := b.forget) hh stop duration)
  exact ⟨_, runs_stopFixture hh stop duration, .single (.stopFixture hh stop duration), rfl⟩

/-- An entry that is no attachment changes the test alone. -/
private theorem attachment_or_changeTest (h : Handle) (e : TestEntry) :
    (∃ file, e = .attachment file)
      ∨ ∃ f, OpenTest.KeepsRefs f ∧ applyEntry h e = changeTest h f
        ∧ ∀ b, withEntry h b e = { b with tests := b.tests.change h f } := by
  cases e with
  | stepStart name start =>
    exact .inr ⟨_, ⟨OpenTest.keepsHandle_openStep name start, fun _ _ href => href⟩, rfl,
      fun _ => rfl⟩
  | stepStop status stop details =>
    exact .inr ⟨_, ⟨OpenTest.keepsHandle_closeStep status stop details,
      fun _ _ => OpenTest.mem_refs_closeStep.1⟩, rfl, fun _ => rfl⟩
  | metadata labels parameters =>
    exact .inr ⟨_, ⟨OpenTest.keepsHandle_describe labels parameters, fun _ _ href => href⟩, rfl,
      fun _ => rfl⟩
  -- only an attachment draws a handle
  | attachment file => exact .inl ⟨file, rfl⟩

/-- An entry is applied as in memory, if the source of an attachment can be saved. -/
private theorem follows_applyMessages (h : Handle) (e : TestEntry) :
    Follows b₀.GetsStuck (Mirrors b₀) (applyMessages h [e]) (applyMessages h [e]) := by
  apply follows_of_steps
  intro b a v' hruns
  obtain ⟨t, ht⟩ := exists_test_of_runs hruns
  obtain ⟨-, rfl⟩ := hruns.unique (runs_applyMessages (b := b.forget) rfl ht [e])
  -- one entry only, so there is nothing after it but the call itself
  have hrun : applyMessages h [e] b = (do applyEntry h e; called .applyMessages h) b := by
    rw [applyMessages, (runs_openTest ht).bind_eq]
    show ((applyEntry h e >>= fun _ => pure ()) >>= fun _ => called .applyMessages h) b = _
    rw [bind_assoc]
    rfl
  -- an attachment needs a file, any other entry only changes the test
  rcases attachment_or_changeTest h e with ⟨file, rfl⟩ | ⟨f, hf, hchange, heq⟩
  · have hact : applyMessages h [.attachment file] b = (do
        save (sourceName (.drawn b.drawn) file.contentType) file.content
        called .applyMessages h : Reporting Unit) (b.withEntry h (.attachment file)) := hrun
    apply runs_or_obstructed hact (sourceName_ne_dots _ _) id
    intro b' hsave
    refine ⟨_, .change _ _, .attach ht file hsave, ?_⟩
    obtain ⟨disk, saved, rfl⟩ := hsave.eq
    rfl
  · have hentry : Runs (applyEntry h e) b () { b with tests := b.tests.change h f } := by
      rw [hchange]
      exact .change _ b
    refine .inl ⟨_, hrun.trans (hentry.bind (.change _ _)),
      .single (.changeTest ht (.inr (.inr rfl)) hf), ?_⟩
    rw [List.foldl_cons, List.foldl_nil, heq]
    rfl

/-- With a directory and without one, a report goes through the same steps. -/
theorem callsFollow_reporter (b₀ : Backend) :
    Backend.reporter.CallsFollow b₀.GetsStuck (Mirrors b₀) Backend.reporter where
  startScope := follows_startScope
  writeScope := follows_writeScope
  startTest := follows_startTest
  updateTest h _ hf := follows_updateTest h hf
  stopTest := follows_stopTest
  writeTest := follows_writeTest
  startFixture := follows_startFixture
  endFixture h _ stop duration hf := follows_endFixture h hf stop duration
  stopFixture := follows_stopFixture
  applyEntry := follows_applyMessages
  -- a report takes no notes
  note _ _ := .pure ()

end Backend

end Chronicle
