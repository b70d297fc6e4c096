import Chronicle.Proofs.Replay.Move

/-!
# Where attachments are kept

An attachment is kept under a source that is made of a handle of its own. Handles are not drawn
twice, so what is kept is never overwritten: `Standing.Sourced` says that all sources are different,
and `Standing.Moves.attachments_subset` that what is kept is found again after any number of moves.
-/
namespace Chronicle

/-- There is no dash in a handle that is drawn. -/
theorem ne_dash_of_mem_drawn {n : Nat} {c : Char} (hc : c ∈ (Handle.drawn n).name.toList) :
    c ≠ '-' := by
  rw [Handle.drawn, String.toList_ofList] at hc
  rcases List.mem_cons.1 hc with rfl | hc
  · decide
  · have hdigit := Decimal.isDigit_of_mem_digits hc
    rintro rfl
    cases hdigit

/-- In the source of an attachment the handle stands before the first dash. -/
theorem takeWhile_sourceName (n : Nat) (type : String) :
    (Backend.sourceName (.drawn n) type).toList.takeWhile (· ≠ '-')
      = (Handle.drawn n).name.toList := by
  simp only [Backend.sourceName, String.toList_append, List.append_assoc]
  rw [List.takeWhile_append_of_pos fun c hc => decide_eq_true (ne_dash_of_mem_drawn hc)]
  exact List.append_nil _

/-- The source of an attachment tells its handle. -/
theorem sourceName_injective {j k : Nat} {type type' : String}
    (h : Backend.sourceName (.drawn j) type = Backend.sourceName (.drawn k) type') : j = k := by
  have hname : (Handle.drawn j).name.toList = (Handle.drawn k).name.toList := by
    rw [← takeWhile_sourceName j type, h, takeWhile_sourceName]
  refine Handle.drawn_injective ?_
  rw [Handle.mk.injEq]
  exact String.toList_inj.1 hname

namespace Standing

variable {st st' : Standing}

/-- What is kept has different sources, made of handles that have been drawn. -/
structure Sourced (st : Standing) : Prop where
  nodup : (st.attachments.map (·.1)).Nodup
  drawn : ∀ a ∈ st.attachments, ∃ k < st.drawn, ∃ type, a.1 = Backend.sourceName (.drawn k) type

/-- A move keeps at most one more attachment, under a source made of the next handle. -/
theorem Move.attachments (hm : Move st st') :
    st'.attachments = st.attachments ∧ st.drawn ≤ st'.drawn
      ∨ ∃ file : Attachment, st'.attachments
          = (Backend.sourceName st.next file.contentType, file.content) :: st.attachments
        ∧ st'.drawn = st.drawn + 1 := by
  cases hm with
  | openScope => exact .inl ⟨rfl, Nat.le_succ _⟩
  | closeScope => cases hs : st.scopes <;> simp [Standing.closeScope, hs]
  | beginTest name start hc => exact .inl ⟨rfl, Nat.le_succ _⟩
  | changeTest hop hf => cases hc : st.current <;> simp [Standing.changeTest, hc]
  -- the one move that keeps a file, if a test is open
  | attach file =>
    cases hc : st.current with
    | none => exact .inl (by simp [Standing.attach, hc])
    | some c => exact .inr ⟨file, by simp [Standing.attach, hc], by simp [Standing.attach, hc]⟩
  | stopTest stop duration hc hended => simp [Standing.stopTest, hc]
  | writeTest => cases hc : st.current <;> simp [Standing.writeTest, hc]
  | startFixture kind name start => cases hs : st.scopes <;> simp [Standing.startFixture, hs]
  | updateFixture f => cases hr : st.running <;> simp [Standing.updateFixture, hr]
  | stopFixture stop duration => cases hr : st.running <;> simp [Standing.stopFixture, hr]

theorem Move.sourced (hm : Move st st') (hs : st.Sourced) : st'.Sourced := by
  rcases hm.attachments with ⟨hsame, hle⟩ | ⟨file, hadded, hdrawn⟩
  · refine ⟨hsame ▸ hs.nodup, fun a ha => ?_⟩
    obtain ⟨k, hk, hsource⟩ := hs.drawn a (hsame ▸ ha)
    exact ⟨k, by omega, hsource⟩
  -- the name has the number just drawn, and the older ones have smaller numbers
  · have hnew : Backend.sourceName st.next file.contentType ∉ st.attachments.map (·.1) := by
      intro hmem
      obtain ⟨a, ha, heq⟩ := List.mem_map.1 hmem
      obtain ⟨k, hk, type, hsource⟩ := hs.drawn a ha
      have := sourceName_injective (hsource.symm.trans heq)
      omega
    constructor
    · rw [hadded, List.map_cons]
      exact List.nodup_cons.2 ⟨hnew, hs.nodup⟩
    · rw [hadded, hdrawn]
      refine List.forall_mem_cons.2 ⟨⟨st.drawn, by omega, _, rfl⟩, fun a ha => ?_⟩
      obtain ⟨k, hk, hsource⟩ := hs.drawn a ha
      exact ⟨k, by omega, hsource⟩

theorem Moves.sourced (hm : Moves st st') (hs : st.Sourced) : st'.Sourced := by
  induction hm with
  | refl => exact hs
  | tail _ hmove ih => exact hmove.sourced ih

theorem sourced_initial (b : Backend) : (initial b).Sourced :=
  ⟨.nil, nofun⟩

/-- Nothing that is kept is lost. -/
theorem Moves.attachments_subset (hm : Moves st st') : st.attachments ⊆ st'.attachments := by
  induction hm with
  | refl => exact List.Subset.refl _
  | tail _ hmove ih =>
    rcases hmove.attachments with ⟨hsame, -⟩ | ⟨file, hadded, -⟩
    · exact hsame ▸ ih
    · rw [hadded]
      exact List.Subset.trans ih (List.subset_cons_self _ _)

end Standing

/-- Under sources that are all different, each finds what is kept under it. -/
theorem lookup_of_mem {attachments : List (String × Bytes)}
    (hnodup : (attachments.map (·.1)).Nodup) {source : String} {content : Bytes}
    (hmem : (source, content) ∈ attachments) : attachments.lookup source = some content := by
  induction attachments with
  | nil => cases hmem
  | cons a rest ih =>
    obtain ⟨hnew, hrest⟩ := List.nodup_cons.1 hnodup
    rcases List.mem_cons.1 hmem with rfl | hmem
    · exact List.lookup_cons_self
    -- the names are different, so the first entry is not the one
    · have hne : source ≠ a.1 := by
        rintro rfl
        exact hnew (List.mem_map.2 ⟨_, hmem, rfl⟩)
      rw [List.lookup_cons, beq_eq_false_iff_ne.2 hne]
      exact ih hrest hmem

end Chronicle
