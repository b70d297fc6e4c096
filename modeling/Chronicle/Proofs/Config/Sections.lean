import Chronicle.Config.Reader
import Mathlib.Data.List.Nodup

/-!
# Settings that are accepted

What the settings of a section promise holds whether they are given or left out: the context has a
name, the pattern is one, a log that goes to a file has a path, and no variable of the environment
is given twice. `Config.sound_of_ofSections` says so of all sections together.
-/
namespace Chronicle

/-- What can be relied upon in settings that have been read. -/
structure Config.Sound (readers : Config.Readers) (c : Config) : Prop where
  defaultContext : c.runtime.defaultContext ≠ ""
  /-- The pattern is that of its text. -/
  afterAll : readers.pattern c.runtime.afterAll.text = .ok c.runtime.afterAll
  path : c.logging.sink = .file → ∃ path, c.logging.path = some path ∧ path ≠ ""
  /-- No variable of the environment is given twice. -/
  environment : (c.environment.map Prod.fst).Nodup

namespace Section

variable {α : Type} {heading : String} {es : Entries} {names : List String} {absent : α}
  {read : Schema.Scalar → Except Schema.Fault α} {P : α → Prop}

/-- What is found without problems is what is read, or what stands for it. -/
private theorem field_sound (hproblems : (field heading es names absent read).problems = [])
    (habsent : P absent) (hread : ∀ v a, read v = .ok a → P a) :
    P (field heading es names absent read).value := by
  simp only [field] at hproblems ⊢
  cases hfind : find? es names with
  | none => exact habsent
  | some found =>
    obtain ⟨name, v⟩ := found
    simp only [hfind] at hproblems ⊢
    -- a value that cannot be read is a problem, and there is none
    cases hv : read v.scalar with
    | ok a => exact hread _ _ hv
    | error f =>
      rw [hv] at hproblems
      cases hproblems

end Section

namespace Config

variable {readers : Readers} {root es : Section.Entries} {c : Config}

private theorem sectionOf_sound {α : Type} {heading record : String} {absent : α}
    {read : Section.Entries → Checked α} {P : α → Prop}
    (hproblems : (sectionOf heading record root absent read).problems = []) (habsent : P absent)
    (hread : ∀ es, (read es).problems = [] → P (read es).value) :
    P (sectionOf heading record root absent read).value := by
  simp only [sectionOf] at hproblems ⊢
  cases hentry : Yaml.Value.entry? root heading with
  | none => exact habsent
  | some v =>
    simp only [hentry] at hproblems ⊢
    -- a section that is no map is a problem, and there is none
    cases hes : entriesOf heading record v with
    | ok es =>
      rw [hes] at hproblems
      exact hread es hproblems
    | error p =>
      rw [hes] at hproblems
      cases hproblems

/-! ### Sections -/

private theorem someText_ne_empty {v : Schema.Scalar} {s : String} (h : someText v = .ok s) :
    s ≠ "" := by
  have hread : someText v
      = Schema.text v >>= fun t => if t = "" then .error .emptyText else .ok t :=
    rfl
  rw [hread] at h
  cases ht : Schema.text v with
  | error f =>
    rw [ht] at h
    cases h
  | ok t =>
    rw [ht, show (Except.ok t >>= _) = if t = "" then _ else _ from rfl] at h
    split at h
    · cases h
    · cases h
      assumption

/-- A pattern that is read is that of its text. -/
private theorem pattern_text {v : Schema.Scalar} {p : Pattern} (h : pattern readers v = .ok p) :
    readers.pattern p.text = .ok p := by
  have hread : pattern readers v = Schema.text v >>= fun s =>
      (readers.pattern s).mapError fun f => .rule (patternRule s f) := rfl
  rw [hread] at h
  cases hs : Schema.text v with
  | error f =>
    rw [hs] at h
    cases h
  | ok s =>
    rw [hs] at h
    cases hp : readers.pattern s with
    | error f =>
      simp only [hp, Bind.bind, Except.bind] at h
      cases h
    | ok q =>
      simp only [hp, Bind.bind, Except.bind] at h
      cases h
      -- the pattern keeps its text, so reading the text again gives the pattern
      rw [readers.text_pattern hp, hp]

/-- What can be relied upon in the settings for the replay. -/
structure RuntimeSound (readers : Readers) (r : RuntimeSettings) : Prop where
  defaultContext : r.defaultContext ≠ ""
  afterAll : readers.pattern r.afterAll.text = .ok r.afterAll

/-- Settings that are left out are as good as settings that are given. -/
private theorem runtimeSound_default (readers : Readers) : RuntimeSound readers {} :=
  ⟨by decide, readers.pattern_default⟩

private theorem runtimeSound_readRuntime (hproblems : (readRuntime readers es).problems = []) :
    RuntimeSound readers (readRuntime readers es).value := by
  obtain ⟨hfields, -⟩ := List.append_eq_nil_iff.1 hproblems
  obtain ⟨hcontext, hafterAll⟩ := List.append_eq_nil_iff.1 hfields
  exact
    { defaultContext := Section.field_sound hcontext (runtimeSound_default readers).defaultContext
        fun _ _ => someText_ne_empty
      afterAll := Section.field_sound (P := fun p => readers.pattern p.text = .ok p) hafterAll
        (runtimeSound_default readers).afterAll fun _ _ => pattern_text }

/-- A log that goes to a file has a path. -/
def HasPath (l : LoggingSettings) : Prop :=
  l.sink = .file → ∃ path, l.path = some path ∧ path ≠ ""

private theorem hasPath_of_logProblems {l : LoggingSettings} (h : logProblems l = []) :
    HasPath l := by
  intro hsink
  rw [logProblems] at h
  split at h
  next => cases h
  next hpath =>
    cases hl : l.path with
    | none => exact absurd ⟨hsink, by rw [hl]; rfl⟩ hpath
    | some path =>
      refine ⟨path, rfl, ?_⟩
      -- an empty path would have been a problem as well
      rintro rfl
      exact hpath ⟨hsink, by rw [hl]; rfl⟩

private theorem hasPath_readLogging (hproblems : (readLogging es).problems = []) :
    HasPath (readLogging es).value := by
  simp only [readLogging] at hproblems
  split at hproblems
  next => exact hasPath_of_logProblems hproblems
  next hsome => exact absurd (List.isEmpty_iff.2 hproblems) hsome

/-- Setting a variable changes its value or adds it. -/
private theorem map_fst_setVariable (known : List (String × String)) (e : String × String) :
    (setVariable known e).map Prod.fst
      = if e.1 ∈ known.map Prod.fst then known.map Prod.fst
        else known.map Prod.fst ++ [e.1] := by
  induction known with
  | nil => rfl
  | cons d rest ih =>
    rw [setVariable, List.map_cons]
    -- the variable is set in its place, or added behind the others
    by_cases hd : d.1 = e.1
    · rw [if_pos hd, List.map_cons, hd, if_pos List.mem_cons_self]
    · rw [if_neg hd, List.map_cons, ih]
      have hmem : e.1 ∈ d.1 :: rest.map Prod.fst ↔ e.1 ∈ rest.map Prod.fst :=
        List.mem_cons.trans (or_iff_right (Ne.symm hd))
      simp only [hmem]
      split
      · rfl
      · exact (List.cons_append ..).symm

private theorem nodup_setVariable {known : List (String × String)} {e : String × String}
    (h : (known.map Prod.fst).Nodup) : ((setVariable known e).map Prod.fst).Nodup := by
  rw [map_fst_setVariable]
  split
  next => exact h
  next hnew => exact h.append (List.nodup_singleton e.1) (List.disjoint_singleton.2 hnew)

/-- No variable of the environment is given twice, also where a text and octets are the same. -/
private theorem nodup_readEnvironment (root : Section.Entries) :
    ((readEnvironment root).value.map Prod.fst).Nodup := by
  rw [readEnvironment]
  split
  next => exact .nil
  next es _ =>
    dsimp only
    generalize (es.map readVariable).map Checked.value = found
    have hnil : (([] : List (String × String)).map Prod.fst).Nodup := List.nodup_nil
    -- setting a variable keeps the names distinct, so setting many does
    exact List.foldlRecOn (motive := fun known => (known.map Prod.fst).Nodup) found setVariable hnil
      fun known h e _ => nodup_setVariable h
  next => exact .nil

/-! ### All sections -/

/-- Settings are found in sections without problems, and they are sound. -/
theorem sound_of_ofSections (h : ofSections readers root = .ok c) : c.Sound readers := by
  simp only [ofSections] at h
  split at h
  next => cases h
  next =>
    split at h
    next hempty =>
      cases h
      -- the problems of the sections are listed one after another, and all lists are empty
      obtain ⟨hthree, -⟩ := List.append_eq_nil_iff.1 (List.isEmpty_iff.1 hempty)
      obtain ⟨htwo, hlogging⟩ := List.append_eq_nil_iff.1 hthree
      obtain ⟨hruntime, -⟩ := List.append_eq_nil_iff.1 htwo
      obtain ⟨hcontext, hafterAll⟩ := sectionOf_sound hruntime (runtimeSound_default readers)
        fun _ => runtimeSound_readRuntime
      have hpath := sectionOf_sound (P := HasPath) hlogging nofun fun _ => hasPath_readLogging
      exact ⟨hcontext, hafterAll, hpath, nodup_readEnvironment root⟩
    next => cases h

end Config

end Chronicle
