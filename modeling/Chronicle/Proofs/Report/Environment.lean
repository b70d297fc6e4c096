import Chronicle.Proofs.File.Directory
import Chronicle.Proofs.Octets.Utf8
import Chronicle.Proofs.Report.Saving
import Chronicle.Proofs.Runs
import Chronicle.Proofs.Text.Split
import Mathlib.Data.List.Sort

/-!
# Reading what is known about the environment

The file has a line for each entry, and nothing is escaped in it. `Environment.entries` reads the
lines again, each up to its first separator. That gives the entries of the map just if all of them
are `Environment.Plain`: no line feed is in them, and no separator begins before their key ends. The
order in which the entries were given never shows. `Environment.Legible` says all this of a map, and
`Environment.legible_of_nodup` that it holds of every one.
-/
namespace Chronicle

namespace Environment

/-! ### Lines -/

/-- What stands between a key and its value. -/
def separator : List Char := " = ".toList

/-- The entry of a line, which ends its key at the first separator. -/
def entry? (line : List Char) : Option (String × String) :=
  (Text.cut? separator line).map fun found => (String.ofList found.1, String.ofList found.2)

/-- The entries that a text shows, line by line. Each of the lines ends with a line feed. -/
def entries (text : List Char) : List (Option (String × String)) :=
  (Text.split '\n' text).dropLast.map entry?

/-- The line of an entry without its end. -/
def body (entry : String × String) : List Char :=
  entry.1.toList ++ (separator ++ entry.2.toList)

/-- An entry that its line shows: it has no line feed, and the first separator comes after its
key. -/
structure Plain (entry : String × String) : Prop where
  key : '\n' ∉ entry.1.toList
  value : '\n' ∉ entry.2.toList
  separator : ¬separator <:+: entry.1.toList ++ separator.dropLast

variable {info info' : List (String × String)} {entry : String × String}

/-- A line is its body and a line feed. -/
private theorem line_eq (entry : String × String) : line entry = body entry ++ ['\n'] := by
  simp only [line, body, separator, List.append_assoc]

/-- The text is the bodies of the entries, in order of their keys, each with a line feed. -/
private theorem text_eq (info : List (String × String)) :
    text info = ((sorted info).map body).flatMap (· ++ ['\n']) := by
  rw [text, List.flatMap_map]
  exact congrArg (fun f => (sorted info).flatMap f) (funext line_eq)

/-- A body is read as its entry just if no separator begins before the key ends. -/
private theorem entry?_body_iff (entry : String × String) :
    entry? (body entry) = some entry ↔ ¬separator <:+: entry.1.toList ++ separator.dropLast := by
  rw [← Text.cut?_append_iff (by decide) entry.1.toList entry.2.toList, entry?, body,
    Option.map_eq_some_iff]
  constructor
  · rintro ⟨⟨k, v⟩, hcut, rfl⟩
    simpa only [String.toList_ofList] using hcut
  · intro hcut
    exact ⟨_, hcut, by simp only [String.ofList_toList]⟩

/-- A body is on one line just if its key and its value are. -/
private theorem not_mem_body_iff (entry : String × String) :
    '\n' ∉ body entry ↔ '\n' ∉ entry.1.toList ∧ '\n' ∉ entry.2.toList := by
  have hseparator : '\n' ∉ separator := by decide
  simp only [body, List.mem_append, hseparator, false_or, not_or]

/-! ### Texts -/

/-- Sorting loses no entry. -/
private theorem sorted_perm (info : List (String × String)) : (sorted info).Perm info :=
  List.mergeSort_perm _ _

/-- Where no line feed is in an entry, each line is that of one entry. -/
private theorem entries_text (hbodies : ∀ e ∈ info, '\n' ∉ body e) :
    entries (text info) = (sorted info).map fun e => entry? (body e) := by
  have hparts : ∀ part ∈ (sorted info).map body, '\n' ∉ part := by
    intro part hpart
    obtain ⟨e, he, rfl⟩ := List.mem_map.1 hpart
    exact hbodies e ((sorted_perm info).mem_iff.1 he)
  rw [entries, text_eq, Text.split_flatMap hparts, List.dropLast_concat, List.map_map]
  rfl

/-- A line feed inside an entry makes a line too many. -/
private theorem not_mem_body_of_entries (h : entries (text info) = (sorted info).map some) :
    ∀ e ∈ info, '\n' ∉ body e := by
  -- there are as many line feeds as entries
  have hcount : (text info).count '\n' = (sorted info).length := by
    have hlength := congrArg List.length h
    rwa [entries, List.length_map, List.length_map, List.length_dropLast, Text.length_split,
      Nat.add_sub_cancel] at hlength
  intro e he
  have hmem := (sorted_perm info).mem_iff.2 he
  rw [text_eq] at hcount
  generalize sorted info = es at hcount hmem
  -- each line has a line feed at its end, so there is none left for its entry
  have hlines : ∀ rest : List (String × String),
      rest.length ≤ ((rest.map body).flatMap (· ++ ['\n'])).count '\n' := by
    intro rest
    induction rest with
    | nil => exact Nat.le_refl 0
    | cons e rest ih =>
      rw [List.map_cons, List.flatMap_cons, List.count_append, List.count_append,
        List.count_singleton_self, List.length_cons]
      omega
  -- the entry stands between others, which have their line feeds
  obtain ⟨before, after, rfl⟩ := List.append_of_mem hmem
  have hbefore := hlines before
  have hafter := hlines after
  simp only [List.map_append, List.map_cons, List.flatMap_append, List.flatMap_cons,
    List.count_append, List.count_singleton_self, List.length_append, List.length_cons] at hcount
  exact List.count_eq_zero.1 (by omega)

/-- The lines show the entries just if every entry is plain. -/
private theorem entries_text_iff :
    entries (text info) = (sorted info).map some ↔ ∀ e ∈ info, Plain e := by
  constructor
  -- read back as they are, so no entry has a line feed or breaks its line at the wrong place
  · intro h e he
    have hbodies := not_mem_body_of_entries h
    rw [entries_text hbodies, List.map_inj_left] at h
    obtain ⟨hkey, hvalue⟩ := (not_mem_body_iff e).1 (hbodies e he)
    exact ⟨hkey, hvalue, (entry?_body_iff e).1 (h e ((sorted_perm info).mem_iff.2 he))⟩
  -- plain entries have one line each, which is read at its first separator
  · intro hplain
    rw [entries_text fun e he => (not_mem_body_iff e).2 ⟨(hplain e he).key, (hplain e he).value⟩,
      List.map_inj_left]
    intro e he
    exact (entry?_body_iff e).2 (hplain e ((sorted_perm info).mem_iff.1 he)).separator

/-! ### Order -/

/-- Whether an entry may stand before another one. -/
def entryLe (a b : String × String) : Bool := !(b.1 < a.1)

/-- Entries are in the order of their keys. -/
private theorem entryLe_iff {a b : String × String} : entryLe a b = true ↔ a.1 ≤ b.1 := by
  rw [entryLe, Bool.not_eq_true', decide_eq_false_iff_not, String.not_lt]

/-- The keys of the sorted entries go up. -/
private theorem sorted_pairwise (info : List (String × String)) :
    (sorted info).Pairwise fun a b => a.1 ≤ b.1 := by
  have htrans : ∀ a b c, entryLe a b = true → entryLe b c = true → entryLe a c = true := by
    intro a b c hab hbc
    rw [entryLe_iff] at *
    exact String.le_trans hab hbc
  have htotal : ∀ a b, (entryLe a b || entryLe b a) = true := by
    intro a b
    rw [Bool.or_eq_true, entryLe_iff, entryLe_iff]
    exact String.le_total a.1 b.1
  exact (List.pairwise_mergeSort htrans htotal info).imp entryLe_iff.1

/-- Keys that are distinct are distinct after sorting. -/
private theorem nodup_keys_sorted (hkeys : (info.map (·.1)).Nodup) :
    ((sorted info).map (·.1)).Nodup :=
  ((sorted_perm info).map _).nodup_iff.2 hkeys

/-- The keys of the entries of a map go strictly up. -/
private theorem sorted_strict (hkeys : (info.map (·.1)).Nodup) :
    (sorted info).Pairwise fun a b => a.1 < b.1 := by
  have hne := List.pairwise_map.1 (nodup_keys_sorted hkeys)
  refine ((sorted_pairwise info).and hne).imp fun {a b} h => ?_
  exact String.not_le.1 fun hba => h.2 (String.le_antisymm h.1 hba)

/-- Of the entries of a map there is one order only. -/
private theorem sorted_eq_of_perm (hkeys : (info.map (·.1)).Nodup) (h : info'.Perm info) :
    sorted info' = sorted info := by
  have hperm : (sorted info').Perm (sorted info) :=
    ((sorted_perm info').trans h).trans (sorted_perm info).symm
  refine hperm.eq_of_pairwise ?_ (sorted_pairwise info') (sorted_pairwise info)
  intro a b ha hb hab hba
  exact List.inj_on_of_nodup_map (nodup_keys_sorted hkeys) (hperm.subset ha) hb
    (String.le_antisymm hab hba)

/-! ### Maps -/

/-- What the file of a map tells about it. -/
structure Legible (info : List (String × String)) : Prop where
  /-- The text is found in the directory of a report once it has been written. -/
  written : ∀ (b b' : Backend) (root : Path), b.destination = .directory root →
    Runs (Backend.writeEnvironment info) b () b' →
    b'.disk.read (Backend.environmentPlace root) = .ok (content info)
      ∧ Utf8.decode (content info) = .ok (text info)
  /-- The entries come in the order of their keys. -/
  keysInOrder : (sorted info).Perm info ∧ (sorted info).Pairwise fun a b => a.1 < b.1
  /-- The lines show these entries just if every one of them is plain. -/
  lines : entries (text info) = (sorted info).map some ↔ ∀ e ∈ info, Plain e
  /-- The order in which the entries are given makes no difference. -/
  anyOrder : ∀ info' : List (String × String), info'.Perm info → content info' = content info
  /-- Two maps with plain entries have two texts. -/
  distinct : ∀ info' : List (String × String), (info'.map (·.1)).Nodup → (∀ e ∈ info, Plain e) →
    (∀ e ∈ info', Plain e) → content info' = content info → info'.Perm info

/-- Maps with the same octets have the same text. -/
private theorem text_eq_of_content (h : content info' = content info) : text info' = text info := by
  have hdecode := Utf8.decode_encode (text info')
  rw [show Utf8.encode (text info') = Utf8.encode (text info) from h, Utf8.decode_encode] at hdecode
  exact (Except.ok.inj hdecode).symm

/-- What is written is found in its file. -/
private theorem read_of_writeEnvironment {b b' : Backend} {root : Path}
    (hd : b.destination = .directory root) (hruns : Runs (Backend.writeEnvironment info) b () b') :
    b'.disk.read (Backend.environmentPlace root) = .ok (content info) := by
  rw [Runs, Backend.writeEnvironment, Backend.save, (Runs.get b).bind_eq] at hruns
  have hplace : (root.child fileName).steps = root.steps ++ [fileName] :=
    Path.steps_child root (by decide)
  simp only [hd, hplace] at hruns
  -- a write that fails has not returned
  cases hwrite : b.disk.write (root.steps ++ [fileName]) (content info) with
  | ok disk =>
    rw [hwrite] at hruns
    cases hruns
    rw [Backend.environmentPlace, hplace]
    exact FileTree.read_of_status (FileTree.status_write hwrite)
  | error o =>
    rw [hwrite] at hruns
    cases hruns

/-- Every map is legible, whatever is in its keys and values. -/
theorem legible_of_nodup (hkeys : (info.map (·.1)).Nodup) : Legible info where
  written _ _ _ hd hruns := ⟨read_of_writeEnvironment hd hruns, Utf8.decode_encode _⟩
  keysInOrder := ⟨sorted_perm info, sorted_strict hkeys⟩
  lines := entries_text_iff
  anyOrder info' hperm := by rw [content, content, text, text, sorted_eq_of_perm hkeys hperm]
  -- the same text is read back as the same entries
  distinct info' hkeys' hplain hplain' hcontent := by
    have hentries := entries_text_iff.2 hplain'
    rw [text_eq_of_content hcontent, entries_text_iff.2 hplain] at hentries
    have hsame : sorted info = sorted info' :=
      List.map_injective_iff.2 (Option.some_injective _) hentries
    exact (sorted_perm info').symm.trans (hsame ▸ sorted_perm info)

/-- A value in which the separator occurs is plain, a key in which it occurs is not. -/
theorem legible_of_odd_entries :
    let info := [("os", "linux = unix"), ("a = b", "line\nbreak")]
    (info.map (·.1)).Nodup ∧ Legible info :=
  ⟨by decide, legible_of_nodup (by decide)⟩

/-- A separator in a key, and a line feed in a value: two maps have one text, which shows only one
of them, and a map has a text with a line that shows no entry. -/
theorem entries_of_odd_entries :
    text [("a = b", "c")] = text [("a", "b = c")]
      ∧ entries (text [("a = b", "c")]) ≠ (sorted [("a = b", "c")]).map some
      ∧ entries (text [("k", "line\nbreak")]) ≠ (sorted [("k", "line\nbreak")]).map some := by
  refine ⟨?_, fun h => ?_, fun h => ?_⟩
  · simp only [text, sorted, List.mergeSort_singleton]
    decide
  · exact (entries_text_iff.1 h _ List.mem_cons_self).separator (by decide)
  · exact (entries_text_iff.1 h _ List.mem_cons_self).value (by decide)

end Environment

end Chronicle
