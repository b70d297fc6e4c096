import Chronicle.Json.Parser
import Chronicle.Proofs.Json.Words

/-!
# Printed values read back

`Json.parse_print`: the text of a value is read as that value, if no object in it has two members
with one key and if it holds no numbers but integers of a length that is allowed. So no two such
values have one text.

The tokens of a value take the reader from a state that expects a value to one that has it, and
leave alone whatever is unfinished around it.
-/
namespace Chronicle.Json

/-! ### Objects -/

private theorem foldl_setMember {members more : List (String × Json)}
    (hnodup : ((members ++ more).map (·.1)).Nodup) :
    more.foldl (fun done m => setMember done m.1 m.2) members = members ++ more := by
  induction more generalizing members with
  | nil => exact (List.append_nil members).symm
  | cons m rest ih =>
    have hnew : m.1 ∉ members.map (·.1) := by
      rw [List.map_append, List.nodup_append] at hnodup
      intro hmem
      exact hnodup.2.2 _ hmem _ List.mem_cons_self rfl
    rw [List.foldl_cons, setMember_of_not_mem hnew, ih (by simpa using hnodup), List.append_assoc,
      List.singleton_append]

/-- Members with keys of their own stay as they are. -/
private theorem object_of_nodup {members : List (String × Json)}
    (hnodup : (members.map (·.1)).Nodup) :
    object members = .obj members :=
  congrArg Json.obj (@foldl_setMember [] members hnodup)

/-! ### Steps of the reader -/

variable {stack : List Frame} {ts : List Token}

private theorem run_of_step {stack' : List Frame} {next next' : Expectation} {t : Token}
    (h : step stack next t = .ok (stack', next')) :
    run stack next (t :: ts) = run stack' next' ts := by
  rw [run, h]

private theorem run_openList : run stack .value (.openList :: ts) = run stack .firstItem ts :=
  run_of_step rfl

private theorem run_openObject : run stack .value (.openObject :: ts) = run stack .firstKey ts :=
  run_of_step rfl

private theorem run_firstMember (k : String) :
    run stack .firstKey (.text k :: .colon :: ts) = run (.member [] k :: stack) .value ts :=
  (run_of_step rfl).trans (run_of_step rfl)

private theorem run_nextItem (before : List Json) (u : Json) :
    run (.items before :: stack) (.after u) (.comma :: ts)
      = run (.items (u :: before) :: stack) .value ts :=
  run_of_step rfl

private theorem run_nextMember (before : List (String × Json)) (k : String) (u : Json)
    (k' : String) :
    run (.member before k :: stack) (.after u) (.comma :: .text k' :: .colon :: ts)
      = run (.member ((k, u) :: before) k' :: stack) .value ts :=
  (run_of_step rfl).trans ((run_of_step rfl).trans (run_of_step rfl))

/-- An item of a list is read like any value, unless the list ends instead. -/
private theorem run_firstItem {t : Token} (ht : t ≠ .closeList) :
    run stack .firstItem (t :: ts) = run (.items [] :: stack) .value (t :: ts) := by
  have hstep : step stack .firstItem t = step (.items [] :: stack) .value t := by
    unfold step
    split <;> simp_all
  rw [run, run, hstep]

private theorem exists_words (v : Json) : ∃ t ts, words v = t :: ts ∧ t ≠ .closeList := by
  cases v with
  | arr items => cases items <;> exact ⟨_, _, rfl, nofun⟩
  | obj members => rcases members with - | ⟨⟨k, v⟩, ms⟩ <;> exact ⟨_, _, rfl, nofun⟩
  | _ => exact ⟨_, _, rfl, nofun⟩

mutual

/-- The tokens of a value complete that value. -/
private theorem run_words (v : Json) (hv : Readable v) (stack : List Frame) (ts : List Token) :
    run stack .value (words v ++ ts) = run stack (.after v) ts := by
  -- by recursion on the value: what is read is put on the stack and waits for what follows
  match v with
  | .null => exact run_of_step rfl
  | .bool b => exact run_of_step rfl
  | .int i => exact run_of_step rfl
  | .float x => cases hv
  | .str s => exact run_of_step rfl
  | .arr [] =>
    rw [words, List.cons_append, run_openList]
    exact run_of_step rfl
  | .arr (v :: vs) =>
    obtain ⟨hv, hvs⟩ : Readable v ∧ ItemsReadable vs := hv
    -- the list does not end here, so an item is expected
    obtain ⟨t, ts', hwords, ht⟩ := exists_words v
    have hfirst : run stack .firstItem (words v ++ (wordsOfItems vs ++ ts))
        = run (.items [] :: stack) .value (words v ++ (wordsOfItems vs ++ ts)) := by
      rw [hwords]
      exact run_firstItem ht
    rw [words, List.cons_append, List.append_assoc, run_openList, hfirst, run_words v hv,
      run_wordsOfItems vs hvs]
    rfl
  | .obj [] =>
    rw [words, List.cons_append, run_openObject]
    exact run_of_step rfl
  | .obj ((k, v) :: ms) =>
    obtain ⟨hnodup, hv, hms⟩ : _ ∧ Readable v ∧ MembersReadable ms := hv
    rw [words]
    simp only [List.cons_append, List.append_assoc]
    -- members with one key would be merged once the object is complete
    rw [run_openObject, run_firstMember, run_words v hv, run_wordsOfMembers ms hms,
      List.reverse_nil, List.nil_append, object_of_nodup hnodup]

/-- The tokens of the items after the first complete the list. -/
private theorem run_wordsOfItems (vs : List Json) (hvs : ItemsReadable vs) (stack : List Frame)
    (before : List Json) (u : Json) (ts : List Token) :
    run (.items before :: stack) (.after u) (wordsOfItems vs ++ ts)
      = run stack (.after (.arr (before.reverse ++ u :: vs))) ts := by
  match vs with
  | [] =>
    have hdone : (u :: before).reverse = before.reverse ++ [u] := List.reverse_cons
    rw [← hdone]
    exact run_of_step rfl
  | v :: vs =>
    obtain ⟨hv, hvs⟩ : Readable v ∧ ItemsReadable vs := hvs
    rw [wordsOfItems, List.cons_append, List.append_assoc, run_nextItem, run_words v hv,
      run_wordsOfItems vs hvs, List.reverse_cons, List.append_assoc, List.singleton_append]

/-- The tokens of the members after the first complete the object. -/
private theorem run_wordsOfMembers (ms : List (String × Json)) (hms : MembersReadable ms)
    (stack : List Frame) (before : List (String × Json)) (k : String) (u : Json)
    (ts : List Token) :
    run (.member before k :: stack) (.after u) (wordsOfMembers ms ++ ts)
      = run stack (.after (object (before.reverse ++ (k, u) :: ms))) ts := by
  -- members are kept in reverse until the object is complete
  match ms with
  | [] =>
    have hdone : ((k, u) :: before).reverse = before.reverse ++ [(k, u)] := List.reverse_cons
    rw [← hdone]
    exact run_of_step rfl
  | (k', v) :: ms =>
    obtain ⟨hv, hms⟩ : Readable v ∧ MembersReadable ms := hms
    rw [wordsOfMembers]
    simp only [List.cons_append, List.append_assoc]
    rw [run_nextMember, run_words v hv, run_wordsOfMembers ms hms, List.reverse_cons,
      List.append_assoc, List.singleton_append]

end

/-- A printed value is read back as it is. -/
theorem parse_print {v : Json} (hv : Readable v) : parse (print v) = .ok v := by
  have htokens := tokens_print v hv endsNumber_nil
  have hrun := run_words v hv [] []
  rw [List.append_nil] at htokens hrun
  rw [parse, htokens, show tokens [] = [] by rw [tokens], List.append_nil, hrun]
  rfl

end Chronicle.Json
