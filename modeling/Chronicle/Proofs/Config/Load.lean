import Chronicle.Proofs.Config.Sections
import Chronicle.Proofs.Octets.Utf8
import Chronicle.Proofs.Pattern.Rounds
import Chronicle.Proofs.Yaml.Values

/-!
# What comes of a file of settings

A file that holds a text gives sound settings, or it is rejected, or something in it stops the
reading in a way that is not told as a problem with settings. `Config.Slip` says what that is: a
scalar without a value, keys that cannot be sorted or shown, a version that cannot be shown, or a
pattern that repeats something too often. `Config.answers_load` says that there is nothing else, and
that each of these does stop the reading.
-/
namespace Chronicle.Config

/-! ### Keys in order -/

section Keys

variable {k l : Yaml.Value} {keys rest sorted : List Yaml.Value}

/-- Two keys or more are sorted if the first can be compared with all the others. -/
private theorem sortedKeys?_cons_cons : sortedKeys? (k :: l :: rest)
    = if (l :: rest).all (isComparable k) then some ((k :: l :: rest).mergeSort keyLe) else none :=
  rfl

/-- Keys are sorted if any two of them have an order. -/
private theorem isSome_sortedKeys?_iff :
    (sortedKeys? keys).isSome ↔ keys.Pairwise fun a b => isComparable a b = true := by
  match keys with
  | [] => exact iff_of_true rfl .nil
  | [k] => exact iff_of_true rfl (List.pairwise_singleton _ k)
  | k :: l :: rest =>
    rw [sortedKeys?_cons_cons, Option.isSome_ite, List.all_eq_true, List.pairwise_cons,
      iff_self_and]
    intro hfirst
    -- keys of the kind of the first one have an order among themselves
    refine List.pairwise_of_forall_mem_list fun a ha b hb => ?_
    have hka := hfirst a ha
    have hkb := hfirst b hb
    simp only [isComparable, Bool.and_eq_true, beq_iff_eq] at hka hkb ⊢
    exact ⟨hka.2 ▸ hka.1, hka.2.symm.trans hkb.2⟩

/-- Sorting keeps the keys. -/
private theorem perm_of_sortedKeys? (h : sortedKeys? keys = some sorted) : sorted.Perm keys := by
  -- fewer than two keys are in order without being compared
  match keys with
  | [] | [_] =>
    cases h
    exact .refl _
  | k :: l :: rest =>
    rw [sortedKeys?_cons_cons] at h
    split at h
    · cases h
      exact List.mergeSort_perm _ _
    · cases h

end Keys

/-! ### What stops the reading -/

/-- The keys of a map that settings do not have. -/
def strangers (root : Section.Entries) : List Yaml.Value :=
  (root.map (·.1)).filter (!isHeading ·)

/-- A map has the version that is supported, and no keys but those of settings. -/
structure IsSettings (root : Section.Entries) : Prop where
  strangers : strangers root = []
  version : ∃ version, Yaml.Value.entry? root "version" = some version ∧ version.integer? = some 1

/-- What stops the reading of a map without being told as a problem with settings. -/
inductive MapSlip (readers : Readers) (root : Section.Entries) : ConfigFault → Prop
  /-- Two unknown keys have no order. -/
  | unorderedKeys (h : ¬(strangers root).Pairwise fun a b => isComparable a b = true) :
    MapSlip readers root .unorderedKeys
  /-- An unknown key holds an integer with too many digits. -/
  | longKey {k : Yaml.Value}
    (hordered : (strangers root).Pairwise fun a b => isComparable a b = true)
    (hk : k ∈ strangers root) (h : k.isWritable = false) : MapSlip readers root .unwritable
  /-- A version that is not supported holds an integer with too many digits. -/
  | longVersion {version : Yaml.Value} (hstrangers : strangers root = [])
    (hversion : Yaml.Value.entry? root "version" = some version) (hone : version.integer? ≠ some 1)
    (h : version.isWritable = false) : MapSlip readers root .unwritable
  /-- The pattern repeats something too often. -/
  | hugeRepeat {s : String} (hroot : IsSettings root) (hpattern : patternText? root = some s)
    (h : readers.pattern s = .error .hugeRepeat) : MapSlip readers root .hugeRepeat

/-- What stops the reading of a text without being told as a problem with settings. -/
inductive Slip (readers : Readers) (text : List Char) : ConfigFault → Prop
  /-- The text is YAML, but something in it has no value. -/
  | noValue {f : YamlFault} (hvalue : readers.yaml (Text.unifyLineEnds text) = .error f)
    (h : f ≠ .malformed) : Slip readers text (.noValue f)
  | inMap {root : Section.Entries} {f : ConfigFault}
    (hvalue : readers.yaml (Text.unifyLineEnds text) = .ok (.map root))
    (h : MapSlip readers root f) : Slip readers text f

section Maps

variable {readers : Readers} {root : Section.Entries} {c : Config} {f : ConfigFault}
  {version : Yaml.Value}

/-- A pattern repeats something too often just if its text is rejected for that. -/
private theorem hasHugeRepeat_iff : hasHugeRepeat readers root = true
    ↔ ∃ s, patternText? root = some s ∧ readers.pattern s = .error .hugeRepeat := by
  rw [hasHugeRepeat, Option.any_eq_true]
  refine exists_congr fun s => and_congr_right fun _ => ?_
  split
  next hhuge => exact iff_of_true rfl hhuge
  next hother => exact iff_of_false nofun hother

/-- Such a pattern stops the reading before anything else is said about the sections. -/
private theorem ofSections_of_hasHugeRepeat (h : hasHugeRepeat readers root = true) :
    ofSections readers root = .error .hugeRepeat :=
  if_pos h

/-- Sections are rejected for problems in them, unless the pattern repeats something too often. -/
private theorem hasHugeRepeat_of_ofSections (h : ofSections readers root = .error f)
    (hf : f.isRejection = false) :
    hasHugeRepeat readers root = true ∧ f = .hugeRepeat := by
  rw [ofSections] at h
  split at h
  next hhuge =>
    cases h
    exact ⟨hhuge, rfl⟩
  next =>
    -- any other problem with the sections is a rejection
    split at h
    · cases h
    · cases h
      cases hf

/-- A map with the right keys and version is read section by section. -/
private theorem ofValue_of_isSettings (h : IsSettings root) :
    ofValue readers (.map root) = ofSections readers root := by
  obtain ⟨version, hversion, hone⟩ := h.version
  have hstrangers : (root.map (·.1)).filter (!isHeading ·) = [] := h.strangers
  simp only [ofValue, hstrangers, hversion, if_pos hone]

/-- A version other than one is not supported. -/
private theorem ofValue_of_version (hstrangers : strangers root = [])
    (hversion : Yaml.Value.entry? root "version" = some version)
    (hone : version.integer? ≠ some 1) :
    ofValue readers (.map root)
      = .error (if version.isWritable then .unsupportedVersion version else .unwritable) := by
  rw [strangers] at hstrangers
  simp only [ofValue, hstrangers, hversion, if_neg hone]
  exact (apply_ite Except.error _ _ _).symm

/-- Without a version there are no settings. -/
private theorem ofValue_of_noVersion (hstrangers : strangers root = [])
    (hversion : Yaml.Value.entry? root "version" = none) :
    ofValue readers (.map root) = .error .noVersion := by
  rw [strangers] at hstrangers
  simp only [ofValue, hstrangers, hversion]

/-- Keys that do not belong are told in their order, if they have one. -/
private theorem ofValue_of_strangers (hstrangers : strangers root ≠ []) :
    ofValue readers (.map root) = match sortedKeys? (strangers root) with
      | some keys =>
        .error (if keys.all Yaml.Value.isWritable then .unknownKeys keys else .unwritable)
      | none => .error .unorderedKeys := by
  rw [ofValue]
  split
  next h => exact absurd h hstrangers
  next =>
    split
    -- whether all keys can be written is asked once they are in order
    next keys hkeys =>
      rw [strangers, hkeys]
      exact (apply_ite Except.error _ _ _).symm
    next hkeys => rw [strangers, hkeys]

/-- Keys that cannot all be compared have no order to be told in. -/
private theorem ofValue_of_unordered
    (h : ¬(strangers root).Pairwise fun a b => isComparable a b = true) :
    ofValue readers (.map root) = .error .unorderedKeys := by
  have hstrangers : strangers root ≠ [] := by
    intro hnil
    exact h (hnil ▸ .nil)
  have hsorted : sortedKeys? (strangers root) = none := by
    rwa [← isSome_sortedKeys?_iff, Option.not_isSome_iff_eq_none] at h
  rw [ofValue_of_strangers hstrangers, hsorted]

/-- Keys that can are told, if all of them can be written. -/
private theorem ofValue_of_ordered (hstrangers : strangers root ≠ [])
    (hordered : (strangers root).Pairwise fun a b => isComparable a b = true) :
    ∃ keys, keys.Perm (strangers root) ∧ ofValue readers (.map root)
      = .error (if keys.all Yaml.Value.isWritable then .unknownKeys keys else .unwritable) := by
  obtain ⟨keys, hkeys⟩ := Option.isSome_iff_exists.1 (isSome_sortedKeys?_iff.2 hordered)
  refine ⟨keys, perm_of_sortedKeys? hkeys, ?_⟩
  rw [ofValue_of_strangers hstrangers, hkeys]

/-- A map has the form of settings, or there is a fault in it. -/
private theorem ofValue_cases (readers : Readers) (root : Section.Entries) : IsSettings root
    ∨ ∃ f, ofValue readers (.map root) = .error f
      ∧ (f.isRejection = false → MapSlip readers root f) := by
  -- the keys are looked at first, then the version
  by_cases hstrangers : strangers root = []
  · cases hversion : Yaml.Value.entry? root "version" with
    | none => exact .inr ⟨_, ofValue_of_noVersion hstrangers hversion, nofun⟩
    | some version =>
      by_cases hone : version.integer? = some 1
      · exact .inl ⟨hstrangers, version, hversion, hone⟩
      -- the version is told if it can be written, and that fails if it cannot
      · refine .inr ⟨_, ofValue_of_version hstrangers hversion hone, ?_⟩
        split
        next => exact nofun
        next hlong =>
          exact fun _ => .longVersion hstrangers hversion hone (Bool.eq_false_iff.2 hlong)
  · by_cases hordered : (strangers root).Pairwise fun a b => isComparable a b = true
    · obtain ⟨keys, hperm, hkeys⟩ := ofValue_of_ordered hstrangers hordered
      refine .inr ⟨_, hkeys, ?_⟩
      split
      next => exact nofun
      next hlong =>
        -- some key cannot be written, and it is among the strangers
        obtain ⟨k, hk, hwritable⟩ := List.all_eq_false.1 (Bool.eq_false_iff.2 hlong)
        exact fun _ => .longKey hordered (hperm.mem_iff.1 hk) (Bool.eq_false_iff.2 hwritable)
    · exact .inr ⟨_, ofValue_of_unordered hordered, fun _ => .unorderedKeys hordered⟩

/-- Settings are found in a map that has their form only. -/
private theorem isSettings_of_ofValue (h : ofValue readers (.map root) = .ok c) :
    IsSettings root := by
  obtain hroot | ⟨f, hf, -⟩ := ofValue_cases readers root
  · exact hroot
  · cases hf.symm.trans h

/-- A map that stops the reading has a slip. -/
private theorem mapSlip_of_eq (h : ofValue readers (.map root) = .error f)
    (hf : f.isRejection = false) :
    MapSlip readers root f := by
  obtain hroot | ⟨g, hg, hslip⟩ := ofValue_cases readers root
  · rw [ofValue_of_isSettings hroot] at h
    obtain ⟨hhuge, rfl⟩ := hasHugeRepeat_of_ofSections h hf
    obtain ⟨s, hpattern, hs⟩ := hasHugeRepeat_iff.1 hhuge
    exact .hugeRepeat hroot hpattern hs
  · cases hg.symm.trans h
    exact hslip hf

/-- A slip in a map stops the reading. -/
private theorem eq_of_mapSlip (h : MapSlip readers root f) :
    ofValue readers (.map root) = .error f := by
  cases h with
  | unorderedKeys h => exact ofValue_of_unordered h
  -- one key that cannot be written is enough, wherever sorting puts it
  | @longKey k hordered hk h =>
    obtain ⟨keys, hperm, hkeys⟩ := ofValue_of_ordered (List.ne_nil_of_mem hk) hordered
    rw [hkeys, if_neg]
    intro hall
    rw [List.all_eq_true.1 hall k (hperm.mem_iff.2 hk)] at h
    cases h
  | longVersion hstrangers hversion hone h =>
    rw [ofValue_of_version hstrangers hversion hone, h]
    rfl
  | hugeRepeat hroot hpattern h =>
    rw [ofValue_of_isSettings hroot]
    exact ofSections_of_hasHugeRepeat (hasHugeRepeat_iff.2 ⟨_, hpattern, h⟩)

end Maps

/-! ### Whole files -/

section Texts

variable {readers : Readers} {text : List Char} {c : Config} {f : ConfigFault}

/-- What is not told as a problem with settings is in the text, and it always stops the reading. -/
private theorem slip_iff :
    ofText readers text = .error f ∧ f.isRejection = false ↔ Slip readers text f := by
  constructor
  · rintro ⟨h, hf⟩
    rw [ofText] at h
    split at h
    next v hvalue =>
      -- what is no map is rejected, and what has no value stops the reading
      cases v with
      | map root => exact .inMap hvalue (mapSlip_of_eq h hf)
      | _ =>
        cases h
        cases hf
    next =>
      cases h
      cases hf
    -- a text that is no YAML is rejected, one without a value slips
    next hne hvalue =>
      cases h
      exact .noValue hvalue hne
  · intro h
    cases h with
    | @noValue f hvalue hne =>
      refine ⟨?_, rfl⟩
      rw [ofText, hvalue]
      -- every other fault of a value is handed on as it is
      cases f with
      | malformed => exact absurd rfl hne
      | _ => rfl
    | @inMap root f hvalue h =>
      refine ⟨?_, by cases h <;> rfl⟩
      rw [ofText, hvalue]
      exact eq_of_mapSlip h

/-- Settings that are read are sound, and their text is a map with the right keys and version. -/
private theorem accepted_of_ofText (h : ofText readers text = .ok c) : c.Sound readers
    ∧ ∃ root, readers.yaml (Text.unifyLineEnds text) = .ok (.map root) ∧ IsSettings root := by
  rw [ofText] at h
  split at h
  next v hvalue =>
    -- only a map can be read as settings
    cases v with
    | map root =>
      have hroot := isSettings_of_ofValue h
      rw [ofValue_of_isSettings hroot] at h
      exact ⟨sound_of_ofSections h, root, hvalue, hroot⟩
    | _ => cases h
  next => cases h
  next => cases h

namespace Slip

variable {names : Text.CharacterNames}

/-- What has no value is a character, the version of the text or a node in it. -/
theorem missing {f : YamlFault} (h : Slip (.standard names) text (.noValue f)) :
    (Yaml.Lexical f ∧ f ≠ .malformed)
      ∨ ∃ n, Yaml.Node.ofText? (Text.unifyLineEnds text) = .ok (some n)
        ∧ ∃ m, Yaml.Node.Within m n ∧ m.Lacks f := by
  obtain ⟨hvalue, hne⟩ | ⟨hvalue, hmap⟩ := h
  · exact (Yaml.fault_ofText hvalue).imp_left fun hlexical => ⟨hlexical, hne⟩
  · cases hmap

/-- A pattern that repeats something too often has a number in it that is too large. -/
private theorem huge (h : Slip (.standard names) text .hugeRepeat) :
    ∃ root s, Yaml.ofText (Text.unifyLineEnds text) = .ok (.map root)
      ∧ patternText? root = some s ∧ Pattern.HasHugeNumber s.toList := by
  obtain _ | @⟨root, _, hvalue, hmap⟩ := h
  cases hmap with
  | @hugeRepeat s hroot hpattern hs =>
    exact ⟨root, s, hvalue, hpattern, Pattern.hasHugeNumber_of_ofText hs⟩

end Slip

end Texts

/-- What comes of reading settings from a text. -/
structure Answers (readers : Readers) (text : List Char) (r : Except ConfigFault Config) :
    Prop where
  /-- Settings that are found are sound, and the text is that of a map of their form. -/
  accepted : ∀ c, r = .ok c → c.Sound readers
    ∧ ∃ root, readers.yaml (Text.unifyLineEnds text) = .ok (.map root) ∧ IsSettings root
  /-- Whatever is not told as a problem with settings is one of a few things, all of which stop the
  reading. -/
  slips : ∀ f, r = .error f ∧ f.isRejection = false ↔ Slip readers text f
  /-- Where there are none of these, there are settings, or a problem with them is told. -/
  settled : (∀ f, ¬Slip readers text f) →
    (∃ c, r = .ok c) ∨ ∃ f, r = .error f ∧ f.isRejection = true
  /-- What has no value is a character, the version of the text or a node in it. -/
  missing : ∀ names f, readers = .standard names → r = .error (.noValue f) →
    (Yaml.Lexical f ∧ f ≠ .malformed)
      ∨ ∃ n, Yaml.Node.ofText? (Text.unifyLineEnds text) = .ok (some n)
        ∧ ∃ m, Yaml.Node.Within m n ∧ m.Lacks f
  /-- A pattern that repeats something too often has a number in it that is too large. -/
  huge : ∀ names, readers = .standard names → r = .error .hugeRepeat →
    ∃ root s, Yaml.ofText (Text.unifyLineEnds text) = .ok (.map root)
      ∧ patternText? root = some s ∧ Pattern.HasHugeNumber s.toList

/-- The settings in a file that holds a text, whatever reads the YAML and the pattern in it. -/
theorem answers_load {readers : Readers} {disk : FileTree} {path : Path} {text : List Char}
    (h : disk.readPath path = .ok (Utf8.encode text)) :
    Answers readers text (load readers disk path) := by
  have hload : load readers disk path = ofText readers text := by
    rw [load, h]
    -- the octets of the file are those of the text
    show ofBytes readers (Utf8.encode text) = _
    rw [ofBytes, Utf8.decode_encode]
  rw [hload]
  constructor
  case accepted => exact fun c => accepted_of_ofText
  case slips => exact fun f => slip_iff
  case settled =>
    intro hslip
    cases hresult : ofText readers text with
    | ok c => exact .inl ⟨c, rfl⟩
    | error f =>
      refine .inr ⟨f, rfl, ?_⟩
      -- a fault that is no rejection would be a slip
      by_contra hf
      exact hslip f (slip_iff.1 ⟨hresult, Bool.eq_false_iff.2 hf⟩)
  case missing =>
    rintro names f rfl hf
    exact (slip_iff.1 ⟨hf, rfl⟩).missing
  case huge =>
    rintro names rfl hf
    exact (slip_iff.1 ⟨hf, rfl⟩).huge

/-- The path of a file of settings. -/
def settingsPath : Path :=
  ⟨"", ["settings.yaml"]⟩

/-- A directory with a file of settings in it. -/
def settingsFile (text : String) : FileTree :=
  ⟨[(["settings.yaml"], .file (Utf8.encode text.toList))]⟩

/-- The file of the example holds its text. -/
private theorem readPath_settingsFile (text : String) :
    (settingsFile text).readPath settingsPath = .ok (Utf8.encode text.toList) :=
  rfl

theorem answers_load_of_log_path :
    ∃ c, load (.standard .ascii)
        (settingsFile "version: 1\nlogging:\n  sink: jsonl\n  path: a\n") settingsPath = .ok c
      ∧ c.Sound (.standard .ascii) := by
  have hanswers : Answers (.standard .ascii) _ _ :=
    answers_load (readPath_settingsFile "version: 1\nlogging:\n  sink: jsonl\n  path: a\n")
  have hfound : (load (.standard .ascii)
      (settingsFile "version: 1\nlogging:\n  sink: jsonl\n  path: a\n")
      settingsPath).toOption.isSome = true := by decide +kernel
  generalize load _ _ _ = r at hanswers hfound
  cases r with
  | ok c => exact ⟨c, rfl, (hanswers.accepted c rfl).1⟩
  | error f => cases hfound

/-- A pattern may repeat something so often that this is not told as a problem with settings. -/
theorem load_of_huge_repeat :
    (settingsFile "version: 1\nruntime:\n  after_all_pattern: a\x7b4294967295\x7d\n").readPath
        settingsPath
      = .ok (Utf8.encode "version: 1\nruntime:\n  after_all_pattern: a\x7b4294967295\x7d\n".toList)
    ∧ ∃ f, load (.standard .ascii)
        (settingsFile "version: 1\nruntime:\n  after_all_pattern: a\x7b4294967295\x7d\n")
        settingsPath = .error f
      ∧ f.isRejection = false ∧ f.message = "the repetition number is too large" := by
  refine ⟨readPath_settingsFile _, ?_⟩
  -- the configuration is not needed, so only the outcome is evaluated
  have hshown : ((load (.standard .ascii) (settingsFile
      "version: 1\nruntime:\n  after_all_pattern: a\x7b4294967295\x7d\n") settingsPath).mapError
        fun f => (f.isRejection, f.message)).map (fun _ => ())
      = .error (false, "the repetition number is too large") := by decide +kernel
  generalize load _ _ _ = r at hshown
  cases r with
  | ok c => cases hshown
  | error f =>
    obtain ⟨hrejection, hmessage⟩ := Prod.mk.inj (Except.error.inj hshown)
    exact ⟨f, rfl, hrejection, hmessage⟩

end Chronicle.Config
