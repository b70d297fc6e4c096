import Chronicle.Proofs.Event.RoundTrip
import Mathlib.Data.List.Nodup
import Mathlib.Data.List.Pairwise

/-!
# Spellings of event records

The same event can be written in several ways: its members can come in any order, a field can be
written under any of its keys, and data can have members that nobody asks for. Values that differ in
nothing else are spellings of each other, `Event.Respelled`, and `Event.ofJson_eq_of_respelled` says
that they are read alike, whether there is an event in them or something is wrong with them.

What a value of some kind is looked at for is its `Shape`. That of the data of a record depends on
the kind that the record names.
-/
namespace Chronicle

open Schema (Fault)

/-- What is looked at in a value. -/
inductive Shape where
  /-- The whole value. -/
  | scalar
  /-- These fields of an object, each in its own shape. -/
  | record (fields : List (Field × Shape))
  /-- The items of a list. -/
  | list (item : Shape)

namespace Shape

/-- The keys that are looked at in an object. -/
def keys : Shape → List String
  | .record fields => fields.flatMap (·.1.keys)
  | _ => []

/-- What went wrong: a message and a trace. -/
def details : Shape :=
  .record [(Field.message, .scalar), (Field.trace, .scalar)]

/-- A label or a parameter. -/
def nameValue : Shape :=
  .record [(Field.name, .scalar), (Field.value, .scalar)]

/-- The data of a message of a kind. -/
def data : MessageKind → Shape
  | .suiteStart => .record [(Field.name, .scalar), (Field.isFeature, .scalar)]
  | .suiteEnd => .record []
  | .testStart => .record [(Field.name, .scalar), (Field.start, .scalar)]
  | .testInfo => .record [(Field.fullName, .scalar)]
  | .testEnd => .record [(Field.status, .scalar), (Field.stop, .scalar), (Field.stage, .scalar),
      (Field.duration, .scalar), (Field.details, details)]
  | .hookStart => .record [(Field.name, .scalar), (Field.hookKind, .scalar), (Field.start, .scalar)]
  | .hookEnd => .record [(Field.status, .scalar), (Field.stop, .scalar), (Field.duration, .scalar),
      (Field.details, details)]
  | .stepStart => .record [(Field.name, .scalar), (Field.start, .scalar)]
  | .stepStop => .record [(Field.status, .scalar), (Field.stop, .scalar), (Field.details, details)]
  | .metadata => .record [(Field.labels, .list nameValue), (Field.parameters, .list nameValue)]
  | .attachment => .record [(Field.name, .scalar), (Field.content, .scalar),
      (Field.contentType, .scalar), (Field.encoding, .scalar)]

/-- No key is known for two fields, or twice for one. -/
private theorem nodup_keys_data (kind : MessageKind) : (data kind).keys.Nodup := by
  cases kind <;> decide

/-- The keys of status details are distinct. -/
private theorem nodup_keys_details : details.keys.Nodup := by
  decide

/-- The keys of a name and a value are distinct. -/
private theorem nodup_keys_nameValue : nameValue.keys.Nodup := by
  decide

end Shape

/-- Whether two values are the same, as far as they are looked at in a shape. -/
inductive Respelled : Shape → Json → Json → Prop
  | refl (s : Shape) (v : Json) : Respelled s v v
  | symm {s : Shape} {v w : Json} (h : Respelled s v w) : Respelled s w v
  | trans {s : Shape} {u v w : Json} (h : Respelled s u v) (h' : Respelled s v w) : Respelled s u w
  /-- The members of an object come in another order. -/
  | permuted {fields : List (Field × Shape)} {ms ms' : Members} (hnodup : (ms.map (·.1)).Nodup)
      (hperm : ms.Perm ms') : Respelled (.record fields) (.obj ms) (.obj ms')
  /-- An object has one more member, under a key that is not known. -/
  | added {fields : List (Field × Shape)} {before after : Members} {k : String} {v : Json}
      (hk : k ∉ (Shape.record fields).keys) :
      Respelled (.record fields) (.obj (before ++ after)) (.obj (before ++ (k, v) :: after))
  /-- A field that no other member is for goes under another of its keys. -/
  | renamed {fields : List (Field × Shape)} {f : Field} {s : Shape} {before after : Members}
      {k k' : String} {v : Json} (hf : (f, s) ∈ fields) (hk : k ∈ f.keys) (hk' : k' ∈ f.keys)
      (hothers : ∀ m ∈ before ++ after, m.1 ∉ f.keys) :
      Respelled (.record fields) (.obj (before ++ (k, v) :: after))
        (.obj (before ++ (k', v) :: after))
  /-- The value of a field is spelled in another way. -/
  | within {fields : List (Field × Shape)} {f : Field} {s : Shape} {before after : Members}
      {k : String} {v v' : Json} (hf : (f, s) ∈ fields) (hk : k ∈ f.keys) (h : Respelled s v v') :
      Respelled (.record fields) (.obj (before ++ (k, v) :: after))
        (.obj (before ++ (k, v') :: after))
  /-- An item of a list is spelled in another way. -/
  | item {s : Shape} {before after : List Json} {v v' : Json} (h : Respelled s v v') :
      Respelled (.list s) (.arr (before ++ v :: after)) (.arr (before ++ v' :: after))

/-! ### Fields of respelled objects -/

namespace Json

variable {ms ms' before after : Members} {k key : String} {v v' : Json}

/-- A member of another name makes no difference. -/
private theorem member?_insert_of_ne (hne : key ≠ k) :
    member? (before ++ (k, v) :: after) key = member? (before ++ after) key := by
  have hkey : (key == k) = false := beq_eq_false_iff_ne.2 hne
  simp [member?, List.lookup_append, List.lookup_cons, hkey]

/-- A key is missing just if no member has it. -/
private theorem member?_eq_none_iff : member? ms key = none ↔ ∀ m ∈ ms, m.1 ≠ key := by
  rw [member?, List.lookup_eq_none_iff]
  exact forall₂_congr fun m _ => bne_iff_ne.trans ne_comm

/-- A member is found if none before it has its name. -/
private theorem member?_insert_self (hbefore : ∀ m ∈ before, m.1 ≠ k) :
    member? (before ++ (k, v) :: after) k = some v := by
  rw [member?, List.lookup_append, List.lookup_cons_self,
    show List.lookup k before = none from member?_eq_none_iff.2 hbefore, Option.none_or]

/-- Where keys differ, each member has the value of its key. -/
private theorem member?_eq_some_iff (hnodup : (ms.map (·.1)).Nodup) :
    member? ms key = some v ↔ (key, v) ∈ ms := by
  induction ms with
  | nil => simp [member?]
  | cons m rest ih =>
    obtain ⟨k, w⟩ := m
    rw [List.map_cons, List.nodup_cons] at hnodup
    -- the first member has the key, or the search goes on behind it
    by_cases hkey : key = k
    · subst hkey
      have hrest : (key, v) ∉ rest := fun hmem =>
        hnodup.1 (List.mem_map_of_mem (f := fun m => m.1) hmem)
      simp [member?, hrest, eq_comm]
    · have hbeq : (key == k) = false := beq_eq_false_iff_ne.2 hkey
      have hhead : member? ((k, w) :: rest) key = member? rest key := by
        rw [member?, List.lookup_cons, hbeq]
        rfl
      rw [hhead, ih hnodup.2]
      simp [hkey]

/-- The order of members makes no difference if their names are distinct. -/
private theorem member?_eq_of_perm (hnodup : (ms.map (·.1)).Nodup) (hperm : ms.Perm ms') :
    member? ms key = member? ms' key := by
  have hnodup' : (ms'.map (·.1)).Nodup := (hperm.map _).nodup_iff.1 hnodup
  apply Option.ext
  intro v
  rw [member?_eq_some_iff hnodup, member?_eq_some_iff hnodup', hperm.mem_iff]

end Json

namespace Field

variable {f : Field} {ms ms' before after : Members} {k : String} {v : Json}

/-- A field finds the same in members that agree under its keys. -/
private theorem find?_congr (hms : ∀ key ∈ f.keys, Json.member? ms key = Json.member? ms' key) :
    f.find? ms = f.find? ms' := by
  rw [find?, find?]
  generalize f.keys = keys at hms
  induction keys with
  | nil => rfl
  | cons key keys ih =>
    rw [List.findSome?_cons, List.findSome?_cons, hms key List.mem_cons_self,
      ih fun key' hkey => hms key' (List.mem_cons_of_mem _ hkey)]

/-- A field finds values that are alike in members that are alike under its keys. -/
private theorem find?_rel {R : Json → Json → Prop}
    (hms : ∀ key ∈ f.keys, Option.Rel R (Json.member? ms key) (Json.member? ms' key)) :
    Option.Rel R (f.find? ms) (f.find? ms') := by
  rw [find?, find?]
  generalize f.keys = keys at hms
  induction keys with
  | nil => exact .none
  | cons key keys ih =>
    have hkey := hms key List.mem_cons_self
    have hrest := ih fun key' hkey => hms key' (List.mem_cons_of_mem _ hkey)
    rw [List.findSome?_cons, List.findSome?_cons]
    -- the first key decides if it is there, and it is there in both or in neither
    cases hfind : Json.member? ms key <;> cases hfind' : Json.member? ms' key <;>
      rw [hfind, hfind'] at hkey
    · exact hrest
    · cases hkey
    · cases hkey
    · exact hkey

/-- If only one member is for a field, the field has its value, whichever key the member goes
under. -/
private theorem find?_insert_self (hk : k ∈ f.keys)
    (hothers : ∀ m ∈ before ++ after, m.1 ∉ f.keys) :
    f.find? (before ++ (k, v) :: after) = some v := by
  have hnone : ∀ key ∈ f.keys, key ≠ k →
      Json.member? (before ++ (k, v) :: after) key = none := by
    intro key hkey hne
    rw [Json.member?_insert_of_ne hne, Json.member?_eq_none_iff]
    intro m hm heq
    exact hothers m hm (heq ▸ hkey)
  -- no member before this one has the key
  have hsome : Json.member? (before ++ (k, v) :: after) k = some v := by
    apply Json.member?_insert_self
    intro m hm heq
    exact hothers m (List.mem_append_left _ hm) (heq ▸ hk)
  rw [find?]
  generalize f.keys = keys at hk hnone
  induction keys with
  | nil => cases hk
  | cons key keys ih =>
    rw [List.findSome?_cons]
    -- keys that come before are not there, so the search gets to this one
    by_cases hkey : key = k
    · rw [hkey, hsome]
    · have hk' : k ∈ keys := (List.mem_cons.1 hk).resolve_left (Ne.symm hkey)
      rw [hnone key List.mem_cons_self hkey]
      exact ih hk' fun key' hmem => hnone key' (List.mem_cons_of_mem _ hmem)

/-- A member that is none of the keys of a field makes no difference to it. -/
private theorem find?_insert_of_not_mem (hk : k ∉ f.keys) :
    f.find? (before ++ (k, v) :: after) = f.find? (before ++ after) := by
  apply find?_congr
  intro key hkey
  exact Json.member?_insert_of_ne fun heq => hk (heq ▸ hkey)

end Field

/-- Whether fields have respelled values in two objects. -/
def AgreeOn (fields : List (Field × Shape)) (ms ms' : Members) : Prop :=
  ∀ f ∈ fields, Option.Rel (Respelled f.2) (f.1.find? ms) (f.1.find? ms')

namespace AgreeOn

variable {fields : List (Field × Shape)} {f : Field} {s : Shape} {ms ms' ms'' : Members}

/-- A value is spelled as itself. -/
private theorem rel_refl (s : Shape) (v : Option Json) : Option.Rel (Respelled s) v v := by
  cases v with
  | none => exact .none
  | some v => exact .some (.refl s v)

/-- Agreement goes both ways. -/
theorem symm (h : AgreeOn fields ms ms') : AgreeOn fields ms' ms := by
  intro f hf
  have hvalues := h f hf
  generalize f.1.find? ms = v, f.1.find? ms' = v' at hvalues
  cases hvalues with
  | none => exact .none
  | some h => exact .some h.symm

/-- Agreement goes on from one record to the next. -/
theorem trans (h : AgreeOn fields ms ms') (h' : AgreeOn fields ms' ms'') :
    AgreeOn fields ms ms'' := by
  intro f hf
  have hfirst := h f hf
  have hsecond := h' f hf
  generalize f.1.find? ms = u, f.1.find? ms' = v, f.1.find? ms'' = w at hfirst hsecond
  cases hfirst with
  | none => exact hsecond
  | some h =>
    cases hsecond with
    | some h' => exact .some (h.trans h')

variable {α : Type} {read : Json → Except Fault α}

/-- A required field is read alike in records that agree on it. -/
theorem required (h : AgreeOn fields ms ms') (f : Field) (hf : (f, s) ∈ fields)
    (hread : ∀ v w, Respelled s v w → read v = read w) :
    f.required read ms = f.required read ms' := by
  have hvalues := h _ hf
  rw [Field.required, Field.required]
  generalize f.find? ms = v, f.find? ms' = v' at hvalues
  cases hvalues with
  | none => rfl
  | some h => exact hread _ _ h

/-- So is a field with a default. -/
theorem withDefault (h : AgreeOn fields ms ms') (f : Field) (hf : (f, s) ∈ fields) {absent : α}
    (hread : ∀ v w, Respelled s v w → read v = read w) :
    f.withDefault absent read ms = f.withDefault absent read ms' := by
  have hvalues := h _ hf
  rw [Field.withDefault, Field.withDefault]
  generalize f.find? ms = v, f.find? ms' = v' at hvalues
  cases hvalues with
  | none => rfl
  | some h => exact hread _ _ h

end AgreeOn

namespace Respelled

variable {s : Shape} {v w : Json}

/-- Nothing about a value that is looked at as a whole is without meaning. -/
private theorem eq_of_scalar (h : Respelled .scalar v w) : v = w := by
  generalize hs : Shape.scalar = s at h
  induction h with
  | refl => rfl
  | symm _ ih => exact (ih hs).symm
  | trans _ _ ih ih' => exact (ih hs).trans (ih' hs)
  | permuted | added | renamed | within | item => cases hs

/-- Lists of respelled items are read alike if the items are. -/
private theorem list_eq {α : Type} {read : Json → Except Fault α} {item : Shape}
    (hread : ∀ v w, Respelled item v w → read v = read w) (h : Respelled (.list item) v w) :
    Event.list read v = Event.list read w := by
  generalize hs : Shape.list item = s at h
  induction h with
  | refl => rfl
  | symm _ ih => exact (ih hs).symm
  | trans _ _ ih ih' => exact (ih hs).trans (ih' hs)
  | permuted | added | renamed | within => cases hs
  | item h =>
    cases hs
    simp only [Event.list, List.mapM_append, List.mapM_cons, hread _ _ h]

/-- No other field of a record is known under a key of a field. -/
private theorem not_mem_keys_of_ne {fields : List (Field × Shape)} {f g : Field × Shape}
    {k : String} (hnodup : (Shape.record fields).keys.Nodup) (hf : f ∈ fields) (hg : g ∈ fields)
    (hne : f ≠ g) (hk : k ∈ f.1.keys) : k ∉ g.1.keys := by
  have hpairs := (List.nodup_flatMap.1 hnodup).2
  have : Std.Symm (Function.onFun List.Disjoint fun f : Field × Shape => f.1.keys) :=
    ⟨fun _ _ h => List.disjoint_symm h⟩
  exact hpairs.forall hf hg hne hk

/-- Of respelled objects, the fields have respelled values. -/
private theorem agreeOn_of_record {fields : List (Field × Shape)}
    (hnodup : (Shape.record fields).keys.Nodup) (h : Respelled (.record fields) v w) :
    v = w ∨ ∃ ms ms', v = .obj ms ∧ w = .obj ms'
      ∧ AgreeOn fields ms ms' := by
  generalize hs : Shape.record fields = s at h
  induction h with
  | refl => exact .inl rfl
  | symm _ ih =>
    obtain rfl | ⟨ms, ms', rfl, rfl, hms⟩ := ih hs
    · exact .inl rfl
    · exact .inr ⟨ms', ms, rfl, rfl, hms.symm⟩
  | trans _ _ ih ih' =>
    obtain rfl | ⟨ms₁, ms₂, rfl, rfl, hms⟩ := ih hs
    · exact ih' hs
    obtain rfl | ⟨ms₂', ms₃, heq, rfl, hms'⟩ := ih' hs
    · exact .inr ⟨ms₁, ms₂, rfl, rfl, hms⟩
    · cases heq
      exact .inr ⟨ms₁, ms₃, rfl, rfl, hms.trans hms'⟩
  -- from here on the rules of this very shape
  | permuted hkeys hperm =>
    cases hs
    refine .inr ⟨_, _, rfl, rfl, fun f hf => ?_⟩
    rw [Field.find?_congr fun key _ => Json.member?_eq_of_perm hkeys hperm]
    exact AgreeOn.rel_refl f.2 _
  | added hk =>
    cases hs
    refine .inr ⟨_, _, rfl, rfl, fun f hf => ?_⟩
    -- no field asks for the key
    rw [Field.find?_insert_of_not_mem fun hmem => hk (List.mem_flatMap_of_mem hf hmem)]
    exact AgreeOn.rel_refl f.2 _
  | @renamed _ f s before after k k' v hf hk hk' hothers =>
    cases hs
    refine .inr ⟨_, _, rfl, rfl, fun g hg => ?_⟩
    by_cases hfg : (f, s) = g
    · subst hfg
      rw [Field.find?_insert_self hk hothers, Field.find?_insert_self hk' hothers]
      exact AgreeOn.rel_refl s _
    · -- no key is for two fields, so another field asks for neither
      rw [Field.find?_insert_of_not_mem (not_mem_keys_of_ne hnodup hf hg hfg hk),
        Field.find?_insert_of_not_mem (not_mem_keys_of_ne hnodup hf hg hfg hk')]
      exact AgreeOn.rel_refl g.2 _
  | @within _ f s before after k v v' hf hk h =>
    cases hs
    refine .inr ⟨_, _, rfl, rfl, fun g hg => ?_⟩
    by_cases hfg : (f, s) = g
    · subst hfg
      apply Field.find?_rel
      intro key _
      by_cases hkey : key = k
      · subst hkey
        simp only [Json.member?, List.lookup_append, List.lookup_cons_self]
        -- a member before this one counts more
        cases List.lookup key before with
        | none => exact .some h
        | some u => exact .some (.refl s u)
      · rw [Json.member?_insert_of_ne hkey, Json.member?_insert_of_ne hkey]
        exact AgreeOn.rel_refl s _
    · rw [Field.find?_insert_of_not_mem (not_mem_keys_of_ne hnodup hf hg hfg hk),
        Field.find?_insert_of_not_mem (not_mem_keys_of_ne hnodup hf hg hfg hk)]
      exact AgreeOn.rel_refl g.2 _
  | item => cases hs

end Respelled

/-! ### Readers -/

namespace Event

variable {v w : Json} {ms ms' : Members} {kind : MessageKind}

/-- A scalar has one spelling only. -/
private theorem scalar_eq {α : Type} (read : Schema.Scalar → Except Fault α) (v w : Json)
    (h : Respelled .scalar v w) : scalar read v = scalar read w :=
  congrArg _ h.eq_of_scalar

/-- Status details are read alike in every spelling. -/
private theorem details_eq (v w : Json) (h : Respelled .details v w) : details v = details w := by
  obtain rfl | ⟨ms, ms', rfl, rfl, hms⟩ := h.agreeOn_of_record Shape.nodup_keys_details
  · rfl
  · rw [details, details,
      hms.withDefault .message (by simp) (scalar_eq _),
      hms.withDefault .trace (by simp) (scalar_eq _)]

/-- So is a pair of a name and a value. -/
private theorem nameValue_eq {α : Type} (make : String → String → α) (v w : Json)
    (h : Respelled .nameValue v w) : nameValue make v = nameValue make w := by
  obtain rfl | ⟨ms, ms', rfl, rfl, hms⟩ := h.agreeOn_of_record Shape.nodup_keys_nameValue
  · rfl
  · rw [nameValue, nameValue,
      hms.required .name (by simp) (scalar_eq _),
      hms.required .value (by simp) (scalar_eq _)]

/-- The data of a record is drafted alike in every spelling, kind by kind. -/
private theorem draft_eq {fields : List (Field × Shape)} (hshape : Shape.data kind = .record fields)
    (hms : AgreeOn fields ms ms') :
    draft ms kind = draft ms' kind := by
  -- each kind asks for its own fields, and both records agree on every one of them
  cases kind with
  | suiteStart =>
    cases hshape
    rw [draft, draft,
      hms.required .name (by simp) (scalar_eq _),
      hms.withDefault .isFeature (by simp) (scalar_eq _)]
  | suiteEnd => rfl
  | testStart =>
    cases hshape
    rw [draft, draft,
      hms.required .name (by simp) (scalar_eq _),
      hms.required .start (by simp) (scalar_eq _)]
  | testInfo =>
    cases hshape
    rw [draft, draft, hms.required .fullName (by simp) (scalar_eq _)]
  | testEnd =>
    cases hshape
    rw [draft, draft,
      hms.required .status (by simp) (scalar_eq _),
      hms.required .stop (by simp) (scalar_eq _),
      hms.withDefault .stage (by simp) (scalar_eq _),
      hms.withDefault .duration (by simp) (scalar_eq _),
      hms.withDefault .details (by simp) details_eq]
  | hookStart =>
    cases hshape
    rw [draft, draft,
      hms.required .name (by simp) (scalar_eq _),
      hms.required .hookKind (by simp) (scalar_eq _),
      hms.required .start (by simp) (scalar_eq _)]
  | hookEnd =>
    cases hshape
    rw [draft, draft,
      hms.required .status (by simp) (scalar_eq _),
      hms.required .stop (by simp) (scalar_eq _),
      hms.withDefault .duration (by simp) (scalar_eq _),
      hms.withDefault .details (by simp) details_eq]
  | stepStart =>
    cases hshape
    rw [draft, draft,
      hms.required .name (by simp) (scalar_eq _),
      hms.required .start (by simp) (scalar_eq _)]
  | stepStop =>
    cases hshape
    rw [draft, draft,
      hms.required .status (by simp) (scalar_eq _),
      hms.required .stop (by simp) (scalar_eq _),
      hms.withDefault .details (by simp) details_eq]
  | metadata =>
    cases hshape
    rw [draft, draft,
      hms.withDefault .labels (by simp)
        fun _ _ => Respelled.list_eq (nameValue_eq Label.mk),
      hms.withDefault .parameters (by simp)
        fun _ _ => Respelled.list_eq (nameValue_eq Parameter.mk)]
  | attachment =>
    cases hshape
    rw [draft, draft,
      hms.required .name (by simp) (scalar_eq _),
      hms.required .content (by simp) (scalar_eq _),
      hms.required .contentType (by simp) (scalar_eq _),
      hms.withDefault .encoding (by simp) (scalar_eq _)]

/-! ### Records -/

/-- What the data of a record are looked at for: nothing, if the record names no kind. -/
def dataShape (ms : Members) : Shape :=
  match Field.kind.required (scalar (Schema.word MessageKind)) ms with
  | .ok kind => Shape.data kind
  | .error _ => .record []

/-- Whether two records are the same, but for the order of their members and how their data are
spelled. -/
inductive Respelled : Json → Json → Prop
  | refl (v : Json) : Respelled v v
  | symm {v w : Json} (h : Respelled v w) : Respelled w v
  | trans {u v w : Json} (h : Respelled u v) (h' : Respelled v w) : Respelled u w
  | permuted {ms ms' : Members} (hnodup : (ms.map (·.1)).Nodup) (hperm : ms.Perm ms') :
      Respelled (.obj ms) (.obj ms')
  | data {before after : Members} {d d' : Json}
      (h : Chronicle.Respelled (dataShape (before ++ (Field.data.key, d) :: after)) d d') :
      Respelled (.obj (before ++ (Field.data.key, d) :: after))
        (.obj (before ++ (Field.data.key, d') :: after))

/-- Data that are respelled are no object, or the same message is drafted from them. -/
private theorem dictionary_of_respelled {d d' : Json}
    (h : Chronicle.Respelled (Shape.data kind) d d') :
    d = d' ∨ ∃ ms ms', d = .obj ms ∧ d' = .obj ms' ∧ draft ms kind = draft ms' kind := by
  obtain ⟨fields, hshape⟩ : ∃ fields, Shape.data kind = .record fields := by
    cases kind <;> exact ⟨_, rfl⟩
  have hnodup := Shape.nodup_keys_data kind
  rw [hshape] at h hnodup
  obtain rfl | ⟨ms, ms', rfl, rfl, hms⟩ := h.agreeOn_of_record hnodup
  · exact .inl rfl
  · exact .inr ⟨ms, ms', rfl, rfl, draft_eq hshape hms⟩

/-- What reading goes on with after the record: its kind decides how. -/
def ofParts (parts : Except Fault (Option String × MessageKind × Members)) :
    Except EventError Event := do
  let (contextId, kind, data) ← parts.mapError .invalid
  let found ← (draft data kind).mapError .invalid
  return ⟨contextId, ← found.finish⟩

/-- An event is read from the parts of its record. -/
private theorem ofJson_eq_ofParts (v : Json) : ofJson v = ofParts (ofRecord v) :=
  rfl

/-- Parts that have been read are drafted and completed. -/
private theorem ofParts_ok (contextId : Option String) (kind : MessageKind) (ms : Members) :
    ofParts (.ok (contextId, kind, ms)) = (do
      let found ← (draft ms kind).mapError EventError.invalid
      return ⟨contextId, ← found.finish⟩) :=
  rfl

/-- The parts of a record do not depend on the order of its members. -/
private theorem ofRecord_of_perm (hnodup : (ms.map (·.1)).Nodup) (hperm : ms.Perm ms') :
    ofRecord (.obj ms) = ofRecord (.obj ms') := by
  have hfind : ∀ f : Field, f.find? ms = f.find? ms' := fun f =>
    Field.find?_congr fun key _ => Json.member?_eq_of_perm hnodup hperm
  simp only [ofRecord, Field.withDefault, Field.required, hfind, hperm.all_eq]

/-- The value of the data is looked at last, when the kind of the record is known. -/
private theorem ofJson_of_data {before after : Members} {d d' : Json}
    (h : Chronicle.Respelled (dataShape (before ++ (Field.data.key, d) :: after)) d d') :
    ofJson (.obj (before ++ (Field.data.key, d) :: after))
      = ofJson (.obj (before ++ (Field.data.key, d') :: after)) := by
  -- all that a record says besides is the same
  have hothers : ∀ f : Field, Field.data.key ∉ f.keys →
      f.find? (before ++ (Field.data.key, d') :: after)
        = f.find? (before ++ (Field.data.key, d) :: after) := by
    intro f hf
    rw [Field.find?_insert_of_not_mem hf, Field.find?_insert_of_not_mem hf]
  have hall : (before ++ (Field.data.key, d') :: after).all (fun m => recordKeys.contains m.1)
      = (before ++ (Field.data.key, d) :: after).all (fun m => recordKeys.contains m.1) := by
    simp only [List.all_append, List.all_cons]
  have hdata : ∀ v : Json, Field.data.find? (before ++ (Field.data.key, v) :: after)
      = (List.lookup Field.data.key before).or (some v) := by
    intro v
    simp [Field.find?, Field.keys, Field.data, Json.member?, List.lookup_append]
  have hcontext : Field.contextId.withDefault none (scalar Schema.text?)
        (before ++ (Field.data.key, d') :: after)
      = Field.contextId.withDefault none (scalar Schema.text?)
        (before ++ (Field.data.key, d) :: after) := by
    rw [Field.withDefault, Field.withDefault, hothers Field.contextId (by decide)]
  have hkind : Field.kind.required (scalar (Schema.word MessageKind))
        (before ++ (Field.data.key, d') :: after)
      = Field.kind.required (scalar (Schema.word MessageKind))
        (before ++ (Field.data.key, d) :: after) := by
    rw [Field.required, Field.required, hothers Field.kind (by decide)]
  rw [ofJson_eq_ofParts, ofJson_eq_ofParts, ofRecord, ofRecord, hcontext, hkind, hall]
  -- the data are looked at last, for the kind that has been read by then
  cases Field.contextId.withDefault none (scalar Schema.text?)
      (before ++ (Field.data.key, d) :: after) with
  | error f => rfl
  | ok contextId =>
    cases hread : Field.kind.required (scalar (Schema.word MessageKind))
        (before ++ (Field.data.key, d) :: after) with
    | error f => rfl
    | ok kind =>
      rw [dataShape, hread] at h
      rw [Field.withDefault, Field.withDefault, hdata, hdata]
      cases List.lookup Field.data.key before with
      | some u => rfl
      | none =>
        obtain rfl | ⟨ms, ms', rfl, rfl, hdraft⟩ := dictionary_of_respelled h
        · rfl
        · -- the members themselves differ, but nobody asks for more than the draft
          have hparts : ofParts (.ok (contextId, kind, ms))
              = ofParts (.ok (contextId, kind, ms')) := by
            rw [ofParts_ok, ofParts_ok, hdraft]
          show ofParts (if _ then .ok (contextId, kind, ms) else .error .extra)
            = ofParts (if _ then .ok (contextId, kind, ms') else .error .extra)
          split
          · exact hparts
          · rfl

/-- Respelled records are read alike. -/
theorem ofJson_eq_of_respelled (h : Respelled v w) : ofJson v = ofJson w := by
  induction h with
  | refl => rfl
  | symm _ ih => exact ih.symm
  | trans _ _ ih ih' => exact ih.trans ih'
  | permuted hnodup hperm =>
    rw [ofJson_eq_ofParts, ofJson_eq_ofParts, ofRecord_of_perm hnodup hperm]
  | data h => exact ofJson_of_data h

/-- A record with a member that it may not have is no event. -/
private theorem exists_error_of_unknown {before after : Members} {k : String}
    (hk : k ∉ recordKeys) :
    ∃ f, ofJson (.obj (before ++ (k, v) :: after)) = .error (.invalid f) := by
  have hall : (before ++ (k, v) :: after).all (fun m => recordKeys.contains m.1) = false := by
    rw [List.all_eq_false]
    exact ⟨(k, v), by simp, by simpa using hk⟩
  have hrecord : ∃ f, ofRecord (.obj (before ++ (k, v) :: after)) = .error f := by
    cases hread : ofRecord (.obj (before ++ (k, v) :: after)) with
    | error f => exact ⟨f, rfl⟩
    | ok parts =>
      -- a record is only read if all its members are known
      obtain ⟨_, -, h⟩ := bind_eq_ok.1 hread
      obtain ⟨_, -, h⟩ := bind_eq_ok.1 h
      obtain ⟨_, -, h⟩ := bind_eq_ok.1 h
      rw [hall] at h
      cases h
  obtain ⟨f, hf⟩ := hrecord
  exact ⟨f, by rw [ofJson_eq_ofParts, hf]; rfl⟩

/-- How a record is spelled does not matter, for the event or the error that it is read as; but it
may not have an unknown member. -/
theorem ofJson_spelling :
    (∀ v w, Respelled v w → ofJson v = ofJson w)
      ∧ ∀ before k v after, k ∉ recordKeys →
        ∃ f, ofJson (.obj (before ++ (k, v) :: after)) = .error (.invalid f) :=
  ⟨fun _ _ => ofJson_eq_of_respelled, fun _ _ _ _ => exists_error_of_unknown⟩

/-- A hook that is told in the keys of a reporter, with a member that nobody asks for. -/
theorem ofJson_spelling_of_hook :
    ofJson (.obj [("type", .str "hook_start"), ("data", .obj [("type", .str "before"),
        ("title", .null), ("name", .str "a"), ("startTime", .int 1)])])
      = ofJson (.obj [("data", .obj [("name", .str "a"), ("hook_kind", .str "before"),
        ("startTime", .int 1)]), ("type", .str "hook_start")])
    ∧ ∃ f, ofJson (.obj [("type", .str "hook_start"), ("title", .null)]) = .error (.invalid f) := by
  constructor
  · apply ofJson_spelling.1
    -- the hook kind under another key, then a member that nobody asks for, then another order
    have hrenamed : Chronicle.Respelled (Shape.data .hookStart)
        (.obj [("type", .str "before"), ("title", .null), ("name", .str "a"),
          ("startTime", .int 1)])
        (.obj [("hook_kind", .str "before"), ("title", .null), ("name", .str "a"),
          ("startTime", .int 1)]) :=
      @Respelled.renamed _ Field.hookKind .scalar [] _ "type" "hook_kind" _ (by simp) (by decide)
        (by decide) (by decide)
    have hadded : Chronicle.Respelled (Shape.data .hookStart)
        (.obj [("hook_kind", .str "before"), ("name", .str "a"), ("startTime", .int 1)])
        (.obj [("hook_kind", .str "before"), ("title", .null), ("name", .str "a"),
          ("startTime", .int 1)]) :=
      @Respelled.added _ [("hook_kind", .str "before")] _ "title" .null (by decide)
    have hpermuted : Chronicle.Respelled (Shape.data .hookStart)
        (.obj [("hook_kind", .str "before"), ("name", .str "a"), ("startTime", .int 1)])
        (.obj [("name", .str "a"), ("hook_kind", .str "before"), ("startTime", .int 1)]) :=
      .permuted (by decide) (.swap _ _ _)
    have hdata := hrenamed.trans (hadded.symm.trans hpermuted)
    have hfirst := @Respelled.data [("type", .str "hook_start")] [] _ _ hdata
    exact hfirst.trans (.permuted (by decide) (.swap _ _ _))
  · exact ofJson_spelling.2 [("type", .str "hook_start")] "title" .null [] (by decide)

end Event

end Chronicle
