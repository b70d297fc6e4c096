import Chronicle.Proofs.Text.Split
import Chronicle.Proofs.Yaml.Reading
import Chronicle.Yaml.Document

/-!
# Scalars without values

A scalar may have the form of a number or a timestamp and yet stand for nothing. `Yaml.HasValue`
says which scalars have a value, and `Yaml.exists_ofScalar_iff` that these are the ones. What goes
wrong while a tree is turned into a value is something in its shape, or one of its nodes lacks a
value (`Yaml.fault_build`). `Yaml.fault_ofText` says the same of a text.
-/
namespace Chronicle.Yaml

/-! ### Computations that succeed -/

section Success

variable {ε ε' α β : Type}

/-- A value that is made from another one exists if that one does. -/
private theorem exists_map_iff {x : Except ε α} {f : α → β} :
    (∃ b, x.map f = .ok b) ↔ ∃ a, x = .ok a := by
  cases x with
  | ok a => exact ⟨fun _ => ⟨a, rfl⟩, fun _ => ⟨f a, rfl⟩⟩
  | error e => exact ⟨nofun, nofun⟩

/-- Telling a failure in other words does not change whether there is one. -/
private theorem exists_mapError_iff {x : Except ε α} {f : ε → ε'} :
    (∃ a, x.mapError f = .ok a) ↔ ∃ a, x = .ok a := by
  cases x with
  | ok a => exact ⟨fun _ => ⟨a, rfl⟩, fun _ => ⟨a, rfl⟩⟩
  | error e => exact ⟨nofun, nofun⟩

/-- All items of a list succeed, or the list does not. -/
private theorem exists_mapM_iff {f : α → Except ε β} {l : List α} :
    (∃ bs, l.mapM f = .ok bs) ↔ ∀ a ∈ l, ∃ b, f a = .ok b := by
  induction l with
  | nil => exact ⟨fun _ => List.forall_mem_nil _, fun _ => ⟨[], rfl⟩⟩
  | cons a l ih =>
    rw [List.forall_mem_cons, ← ih, List.mapM_cons]
    -- the first failure is the failure of the whole
    cases ha : f a with
    | error e => exact ⟨nofun, nofun⟩
    | ok b =>
      cases hl : l.mapM f with
      | error e => exact ⟨nofun, nofun⟩
      | ok bs => exact ⟨fun _ => ⟨⟨b, rfl⟩, bs, rfl⟩, fun _ => ⟨b :: bs, rfl⟩⟩

/-- A list of results has a result for each item. -/
private theorem length_of_mapM {f : α → Except ε β} {l : List α} {bs : List β}
    (h : l.mapM f = .ok bs) :
    bs.length = l.length := by
  -- by induction along the list, as the reading goes
  induction l generalizing bs with
  | nil =>
    cases h
    rfl
  | cons a l ih =>
    rw [List.mapM_cons] at h
    cases ha : f a with
    -- a reading that fails gives no list
    | error e =>
      rw [ha] at h
      cases h
    | ok b =>
      rw [ha] at h
      cases hl : l.mapM f with
      | error e =>
        rw [hl] at h
        cases h
      | ok rest =>
        rw [hl] at h
        cases h
        exact congrArg (· + 1) (ih hl)

end Success

/-! ### Integers -/

/-- An integer without underscores and sign has parts that are integers in its base. -/
def HasIntegers (body : List Char) : Prop :=
  body ≠ []
    ∧ ∀ part ∈ (integerParts body).2, ∃ n, Numeral.integer (integerParts body).1 part = .ok n

/-- An integer is read from a text just if there are integers between its colons. -/
private theorem exists_intOf_iff {cs : List Char} :
    (∃ i, intOf cs = .ok i) ↔ HasIntegers (withSign cs).2 := by
  rw [intOf]
  -- the sign has no part in whether there is a number
  generalize withSign cs = signed
  obtain ⟨negative, body⟩ := signed
  dsimp only
  rw [exists_map_iff, unsignedInteger, HasIntegers]
  split
  next hempty => exact iff_of_false nofun fun h => h.1 (List.isEmpty_iff.1 hempty)
  next hempty =>
    dsimp only
    rw [exists_map_iff, exists_mapM_iff, and_iff_right (mt List.isEmpty_iff.2 hempty)]
    simp only [integerPart, exists_mapError_iff]

/-! ### Floating-point numbers -/

/-- The exponent of a whole number is the length of its binary digits. -/
private theorem floorLog2_one {n : Nat} (hn : n ≠ 0) : Binary64.floorLog2 n 1 = n.log2 := by
  have hlog : Nat.log2 1 = 0 := by decide
  have hle : 2 ^ n.log2 ≤ n := Nat.log2_self_le hn
  simp only [Binary64.floorLog2, hlog, Int.ofNat_zero, Int.sub_zero]
  show (if 1 * 2 ^ n.log2 ≤ n then (n.log2 : Int) else _) = _
  rw [Nat.one_mul, if_pos hle]

/-- What has more than 1024 bits has no finite value. -/
private theorem isFinite_ofFraction_one {bits n : Nat} (hbits : 1024 ≤ bits)
    (hn : Nat.pow 2 bits ≤ n) :
    (Binary64.ofFraction false n 1).isFinite = false := by
  have hne : n ≠ 0 := Nat.ne_of_gt (Nat.lt_of_lt_of_le (Nat.two_pow_pos bits) hn)
  have hlog : bits ≤ n.log2 := (Nat.le_log2 hne).2 hn
  rw [Binary64.ofFraction, if_neg hne, floorLog2_one hne]
  dsimp only
  -- rounding may add one to the exponent, which is too large already
  split
  all_goals
    dsimp only
    rw [if_pos (by omega)]
    rfl

/-- Powers of sixty are finite up to a certain exponent. -/
private theorem isFinite_sixtyTo_iff {n : Nat} : (sixtyTo n).isFinite = true ↔ n ≤ 173 := by
  constructor
  · intro h
    by_contra hmany
    -- the first power that is too large has more than 1024 binary digits
    obtain ⟨bits, hbits, hpow⟩ : ∃ bits, 1024 ≤ bits ∧ Nat.pow 2 bits ≤ Nat.pow 60 174 := by
      refine ⟨1024, Nat.le_refl 1024, ?_⟩
      decide +kernel
    have hlarge : Nat.pow 2 bits ≤ Nat.pow 60 n :=
      hpow.trans (Nat.pow_le_pow_right (by decide) (by omega))
    rw [sixtyTo, isFinite_ofFraction_one hbits hlarge] at h
    cases h
  · have hsmall : ∀ n < 174, (sixtyTo n).isFinite = true := by decide +kernel
    exact fun h => hsmall n (by omega)

/-- Parts to the base sixty have a value just if there are not too many of them. -/
private theorem exists_floatSixtieths_iff {parts : List Binary64} :
    (∃ x, floatSixtieths parts = .ok x) ↔ parts.length ≤ 174 := by
  rw [floatSixtieths]
  split
  next h =>
    rw [isFinite_sixtyTo_iff] at h
    exact iff_of_true ⟨_, rfl⟩ (by omega)
  next h =>
    rw [isFinite_sixtyTo_iff] at h
    exact iff_of_false nofun (by omega)

/-- A floating-point number without underscores and sign is a word, or it has parts that are
floating-point numbers, not too many of them. -/
def HasFloats (body : List Char) : Prop :=
  String.ofList body = ".inf" ∨ String.ofList body = ".nan"
    ∨ (∀ part ∈ Text.split ':' body, (Numeral.float? part).isSome) ∧ body.count ':' ≤ 173

/-- A part has a value just if its text is a floating-point numeral. -/
private theorem exists_floatPart_iff {text : List Char} :
    (∃ x, floatPart text = .ok x) ↔ (Numeral.float? text).isSome := by
  rw [floatPart]
  cases Numeral.float? text with
  | none => exact iff_of_false nofun nofun
  | some x => exact iff_of_true ⟨x, rfl⟩ rfl

/-- Parts are added up unless one of them is no number or there are too many. -/
private theorem exists_floatParts_iff {parts : List (List Char)} :
    (∃ x, parts.mapM floatPart >>= floatSixtieths = .ok x)
      ↔ (∀ part ∈ parts, (Numeral.float? part).isSome) ∧ parts.length ≤ 174 := by
  have hparts : (∃ xs, parts.mapM floatPart = .ok xs)
      ↔ ∀ part ∈ parts, (Numeral.float? part).isSome := by
    rw [exists_mapM_iff]
    simp only [exists_floatPart_iff]
  rw [← hparts]
  cases hfound : parts.mapM floatPart with
  | error f => exact iff_of_false nofun fun h => nomatch h.1
  | ok xs =>
    -- there are as many numbers as parts
    rw [← length_of_mapM hfound, and_iff_right ⟨xs, rfl⟩]
    exact exists_floatSixtieths_iff

/-- A text without its sign has a value just if there are numbers between its colons, not too
many. -/
private theorem exists_unsignedFloat_iff {body : List Char} :
    (∃ x, unsignedFloat body = .ok x) ↔ HasFloats body := by
  rw [unsignedFloat, HasFloats]
  split
  -- the two words stand for numbers that have no digits
  next hword => exact iff_of_true ⟨_, rfl⟩ (.inl hword)
  next hword => exact iff_of_true ⟨_, rfl⟩ (.inr (.inl hword))
  next hinfinite hundefined =>
    rw [or_iff_right hinfinite, or_iff_right hundefined]
    split
    next =>
      rw [exists_floatParts_iff, Text.length_split]
      exact and_congr_right fun _ => Nat.succ_le_succ_iff
    next hcolon =>
      -- without a colon the text is a single number
      have hnone : ':' ∉ body := fun h => hcolon (List.contains_iff_mem.2 h)
      rw [exists_floatPart_iff, Text.split_of_not_mem hnone, List.count_eq_zero.2 hnone]
      simp

/-- The same for a text with its sign; a text of nothing but underscores has no value. -/
private theorem exists_floatOf_iff {cs : List Char} :
    (∃ x, floatOf cs = .ok x)
      ↔ cs.all (· == '_') = false ∧ HasFloats (withSign (Text.lowerCase cs)).2 := by
  rw [floatOf]
  split
  next hnone => exact iff_of_false nofun fun h => by simp [hnone] at h
  next hsome =>
    rw [and_iff_right (Bool.eq_false_iff.2 hsome)]
    dsimp only
    rw [exists_map_iff, exists_unsignedFloat_iff]

/-! ### Dates and times -/

/-- A time of day on a clock that is less than a day away from universal time. -/
structure IsClock (c : Plain.ClockText) : Prop where
  zone : (c.zone.getD 0).natAbs < 86400
  hour : c.hour ≤ 23
  minute : c.minute ≤ 59
  second : c.second ≤ 59

/-- A timestamp has a value just if its date and its clock do. -/
private theorem exists_timestampOf_iff {d : Date} {clock : Option Plain.ClockText} :
    (∃ v, timestampOf d clock = .ok v) ↔ d.Valid ∧ ∀ c ∈ clock, IsClock c := by
  cases clock with
  -- a date alone has to be in the calendar
  | none =>
    rw [timestampOf]
    split
    next h => exact iff_of_true ⟨_, rfl⟩ ⟨h, nofun⟩
    next h => exact iff_of_false nofun fun hd => h hd.1
  -- one test after another, in the order in which a clock is checked
  | some c =>
    rw [timestampOf]
    split
    next h => exact iff_of_false nofun fun hc => absurd (hc.2 c rfl).zone (Nat.not_lt.2 h)
    next hzone =>
    split
    next h => exact iff_of_false nofun fun hc => h hc.1
    next hd =>
    split
    next h => exact iff_of_false nofun fun hc => absurd (hc.2 c rfl).hour (Nat.not_le.2 h)
    next hhour =>
    split
    next h => exact iff_of_false nofun fun hc => absurd (hc.2 c rfl).minute (Nat.not_le.2 h)
    next hminute =>
    split
    next h => exact iff_of_false nofun fun hc => absurd (hc.2 c rfl).second (Nat.not_le.2 h)
    next hsecond =>
      refine iff_of_true ⟨_, rfl⟩ ⟨not_not.1 hd, ?_⟩
      rintro _ ⟨⟩
      exact ⟨Nat.not_le.1 hzone, Nat.not_lt.1 hhour, Nat.not_lt.1 hminute, Nat.not_lt.1 hsecond⟩

/-! ### Scalars -/

/-- Whether a scalar with a tag has a value. -/
def HasValue (cs : List Char) : Tag → Prop
  | .null | .text => True
  | .bool => (Plain.booleans.lookup (String.ofList (Text.lowerCase cs))).isSome
  | .int => HasIntegers (withSign cs).2
  | .float => cs.all (· == '_') = false ∧ HasFloats (withSign (Text.lowerCase cs)).2
  | .timestamp =>
    ∃ found ∈ Plain.timestamp? (Plain.chomp cs), found.1.Valid ∧ ∀ c ∈ found.2, IsClock c
  | .octets => cs.all (·.toNat < 0x80) ∧ (Base64.decodeLoosely cs).isSome
  | .list | .map | .pairs | .set | .merge | .equals | .other => False

/-- A text is a truth value just if it is one of the known words. -/
private theorem exists_boolOf_iff {cs : List Char} : (∃ b, boolOf cs = .ok b)
    ↔ (Plain.booleans.lookup (String.ofList (Text.lowerCase cs))).isSome := by
  rw [boolOf]
  cases Plain.booleans.lookup (String.ofList (Text.lowerCase cs)) with
  | none => exact iff_of_false nofun nofun
  | some b => exact iff_of_true ⟨b, rfl⟩ rfl

/-- A text has octets just if it is ASCII and its base64 can be decoded. -/
private theorem exists_octetsOf_iff {cs : List Char} : (∃ bs, octetsOf cs = .ok bs)
    ↔ cs.all (·.toNat < 0x80) ∧ (Base64.decodeLoosely cs).isSome := by
  rw [octetsOf]
  split
  next hfound =>
    split at hfound
    next hascii => exact iff_of_true ⟨_, rfl⟩ ⟨hascii, Option.isSome_iff_exists.2 ⟨_, hfound⟩⟩
    next => cases hfound
  -- nothing is found if a character is out of place
  next hnone =>
    refine iff_of_false nofun fun h => ?_
    rw [if_pos h.1] at hnone
    simp [hnone] at h

theorem exists_ofScalar_iff {tag : Tag} {cs : List Char} :
    (∃ v, ofScalar tag cs = .ok v) ↔ HasValue cs tag := by
  cases tag with
  | null | text => exact iff_of_true ⟨_, rfl⟩ trivial
  -- these tags stand for nothing that one scalar could be
  | list | map | pairs | set | merge | equals | other => exact iff_of_false nofun id
  | bool => rw [ofScalar, exists_map_iff, exists_boolOf_iff, HasValue]
  | int => rw [ofScalar, exists_map_iff, exists_intOf_iff, HasValue]
  | float => rw [ofScalar, exists_map_iff, exists_floatOf_iff, HasValue]
  | octets => rw [ofScalar, exists_map_iff, exists_octetsOf_iff, HasValue]
  | timestamp =>
    simp only [ofScalar, HasValue]
    cases Plain.timestamp? (Plain.chomp cs) with
    | none => exact iff_of_false nofun nofun
    | some found => simpa using exists_timestampOf_iff

/-! ### Trees -/

namespace Node

/-- A node stands somewhere in another one, or is that one. -/
inductive Within (m : Node) : Node → Prop
  | self : Within m m
  | item {t : Tag} {items : List Node} {n : Node} (hmem : n ∈ items) (h : Within m n) :
    Within m (.list t items)
  | key {t : Tag} {entries : List (Node × Node)} {e : Node × Node} (hmem : e ∈ entries)
    (h : Within m e.1) : Within m (.map t entries)
  | value {t : Tag} {entries : List (Node × Node)} {e : Node × Node} (hmem : e ∈ entries)
    (h : Within m e.2) : Within m (.map t entries)

/-- A node that stands for a scalar lacks a value. -/
inductive Lacks (n : Node) : YamlFault → Prop
  | scalar {cs : List Char} {f : YamlFault} (htext : n.text? = some cs)
      (hvalue : ¬HasValue cs n.tag)
    (h : ofScalar n.tag cs = .error f) : Lacks n f
  /-- A map is no timestamp, whatever its text. -/
  | mappedTimestamp {cs : List Char} (hmap : n.isMap = true) (htag : n.tag = .timestamp)
    (htext : n.text? = some cs) : Lacks n .mappedTimestamp

end Node

/-- The nodes of entries. -/
def entryNodes (entries : List (Node × Node)) : List Node :=
  entries.flatMap fun e => [e.1, e.2]

/-- A fault is one in the shape of a tree, or a node in it lacks a value. -/
def IsFaultOf (nodes : List Node) (f : YamlFault) : Prop :=
  f = .malformed ∨ ∃ n ∈ nodes, ∃ m, Node.Within m n ∧ m.Lacks f

namespace IsFaultOf

variable {nodes nodes' : List Node} {n : Node} {f : YamlFault} {t : Tag}

/-- A fault in nodes is one in more nodes. -/
theorem mono (h : IsFaultOf nodes f) (hsub : nodes ⊆ nodes') : IsFaultOf nodes' f :=
  h.imp_right fun ⟨n, hn, hlacks⟩ => ⟨n, hsub hn, hlacks⟩

/-- A fault inside a collection is one of its nodes' or of its own shape. -/
private theorem collection (h : IsFaultOf nodes f)
    (hinner : ∀ m ∈ nodes, ∀ k, Node.Within k m → Node.Within k n) : IsFaultOf [n] f :=
  h.imp_right fun ⟨m, hm, k, hk, hlacks⟩ =>
    ⟨n, List.mem_singleton_self n, k, hinner m hm k hk, hlacks⟩

/-- What is wrong among the items of a list is wrong in the list. -/
theorem list {items : List Node} (h : IsFaultOf items f) : IsFaultOf [.list t items] f :=
  h.collection fun _ hm _ hk => .item hm hk

/-- What is wrong among the entries of a map is wrong in the map. -/
theorem map {entries : List (Node × Node)} (h : IsFaultOf (entryNodes entries) f) :
    IsFaultOf [.map t entries] f := by
  refine h.collection fun m hm k hk => ?_
  obtain ⟨e, he, hm⟩ := List.mem_flatMap.1 hm
  obtain rfl | hm := List.mem_cons.1 hm
  · exact .key he hk
  · obtain rfl := List.mem_singleton.1 hm
    exact .value he hk

end IsFaultOf

namespace Built

variable {α β : Type} {x : Nat × YamlFault} {level : Nat} {tag : Tag} {cs : List Char}

/-- The earlier of two faults is one of them. -/
private theorem earlier_eq_some {a b : Option (Nat × YamlFault)} (h : earlier a b = some x) :
    a = some x ∨ b = some x := by
  unfold earlier at h
  split at h
  next =>
    split at h
    · exact .inr h
    · exact .inl h
  next => exact .inr h
  next => exact .inl h

/-- What is broken does not keep to the rules. -/
private theorem fault_broken (h : (broken level).fault = some x) : x.2 = .malformed := by
  cases h
  rfl

/-- The fault of a reading is the one it has failed with. -/
private theorem fault_ofExcept [Inhabited α] {r : Except YamlFault α}
    (h : (ofExcept level r).fault = some x) : r = .error x.2 := by
  cases r with
  | ok a => cases h
  | error f =>
    cases h
    rfl

/-- What is wrong with an entry is its key, its value, or that its key is a collection. -/
private theorem fault_enter {done : Built (List (Value × Value))} {key value : Built Value}
    (h : (enter level done key value).fault = some x) :
    done.fault = some x ∨ key.fault = some x ∨ value.fault = some x ∨ x.2 = .malformed := by
  obtain h | h := earlier_eq_some h
  · exact .inl h
  obtain h | h := earlier_eq_some h
  · split at h
    · exact .inr (.inl h)
    · cases h
      exact .inr (.inr (.inr rfl))
  · exact .inr (.inr (.inl h))

end Built

/-- What is wrong with a node that stands for a scalar, under its own tag or as a text. -/
private theorem isFaultOf_scalar {tag : Tag} {n : Node} {cs : List Char} {f : YamlFault}
    (htag : tag = n.tag ∨ tag = .text) (htext : n.text? = some cs)
    (h : ofScalar tag cs = .error f) : IsFaultOf [n] f := by
  obtain rfl | rfl := htag
  · refine .inr ⟨n, List.mem_singleton_self n, n, .self, .scalar htext ?_ h⟩
    rw [← exists_ofScalar_iff, h]
    exact nofun
  · cases h

/-- What is wrong with a map under a tag is its shape, its text, or one of its entries. -/
private theorem isFaultOf_ofMap {level : Nat} {tag t : Tag} {entries : List (Node × Node)}
    {found : Built (List (Value × Value))} {x : Nat × YamlFault} (htag : tag = t ∨ tag = .text)
    (h : (Built.ofMap level tag entries found).fault = some x)
    (hfound : found.fault = some x → IsFaultOf (entryNodes entries) x.2) :
    IsFaultOf [.map t entries] x.2 := by
  rw [Built.ofMap.eq_def] at h
  split at h
  -- a map under the tag of a list is broken
  next => exact .inl (Built.fault_broken h)
  next => exact .inl (Built.fault_broken h)
  next =>
    split at h
    · exact (hfound h).map
    · exact .inl (Built.fault_broken h)
  next =>
    split at h
    · exact (hfound h).map
    · exact .inl (Built.fault_broken h)
  next =>
    split at h
    next => exact .inl (Built.fault_broken h)
    next htext =>
      replace h := Built.fault_ofExcept h
      split at h
      next hmapped =>
        rw [← Except.error.inj h]
        -- only one tag can have a map read as a scalar
        obtain rfl : t = .timestamp := htag.elim (fun heq => heq ▸ hmapped) (by simp [hmapped])
        exact .inr ⟨_, List.mem_singleton_self _, _, .self, .mappedTimestamp rfl rfl htext⟩
      next => exact isFaultOf_scalar (n := .map t entries) htag htext h

/-- A node is built under its own tag, or as a text where it is the equals sign of an entry. -/
private theorem keyTag_eq_or (n : Node) : n.keyTag = n.tag ∨ n.keyTag = .text := by
  rw [Node.keyTag]
  split
  · exact .inr rfl
  · exact .inl rfl

mutual

/-- What goes wrong in a tree is its shape, or a node in it lacks a value. -/
theorem fault_build {level : Nat} {tag : Tag} {n : Node} {x : Nat × YamlFault}
    (htag : tag = n.tag ∨ tag = .text) (h : (build level tag n).fault = some x) :
    IsFaultOf [n] x.2 := by
  match n with
  -- a scalar is broken as a list or a map, and read otherwise
  | .scalar t cs =>
    rw [build] at h
    split at h
    next => exact .inl (Built.fault_broken h)
    next => exact isFaultOf_scalar (n := .scalar t cs) htag rfl (Built.fault_ofExcept h)
  -- a list is read item by item, as pairs, or not at all
  | .list t items =>
    cases tag with
    | list =>
      rw [build] at h
      exact (fault_buildItems h).list
    | pairs =>
      rw [build] at h
      exact (fault_buildPairs h).list
    | _ =>
      simp only [build] at h
      exact .inl (Built.fault_broken h)
  -- what is merged into a map is read before its own entries
  | .map t entries =>
    rw [build] at h
    refine isFaultOf_ofMap htag h fun hfound => ?_
    obtain hmerged | hown := fault_buildOwn hfound
    · obtain hnone | hmerged := fault_buildMerged hmerged
      · cases hnone
      · exact hmerged
    · exact hown

/-- What is wrong with a list of items is wrong in one of them. -/
private theorem fault_buildItems {level : Nat} {items : List Node} {x : Nat × YamlFault}
    (h : (buildItems level items).fault = some x) : IsFaultOf items x.2 := by
  match items with
  | [] =>
    rw [buildItems] at h
    cases h
  | n :: rest =>
    rw [buildItems] at h
    obtain h | h := Built.earlier_eq_some h
    · exact (fault_build (.inl rfl) h).mono (List.cons_subset_cons n (List.nil_subset rest))
    · exact (fault_buildItems h).mono (List.subset_cons_self n rest)

/-- What is wrong with a list of pairs is wrong in one of them. -/
private theorem fault_buildPairs {level : Nat} {items : List Node} {x : Nat × YamlFault}
    (h : (buildPairs level items).fault = some x) : IsFaultOf items x.2 := by
  match items with
  | [] =>
    rw [buildPairs] at h
    cases h
  | n :: rest =>
    rw [buildPairs] at h
    obtain h | h := Built.earlier_eq_some h
    · exact (fault_buildPair h).mono (List.cons_subset_cons n (List.nil_subset rest))
    · exact (fault_buildPairs h).mono (List.subset_cons_self n rest)

/-- What is wrong with a pair is its shape, or wrong in its map. -/
private theorem fault_buildPair {level : Nat} {n : Node} {x : Nat × YamlFault}
    (h : (buildPair level n).fault = some x) : IsFaultOf [n] x.2 := by
  match n with
  | .scalar t cs =>
    cases h
    exact .inl rfl
  | .list t items =>
    cases h
    exact .inl rfl
  -- only a map can be a pair
  | .map t entries =>
    rw [buildPair] at h
    exact (fault_buildAlone h).map

/-- The map of a pair has to have a single entry. -/
private theorem fault_buildAlone {level : Nat} {entries : List (Node × Node)} {x : Nat × YamlFault}
    (h : (buildAlone level entries).fault = some x) : IsFaultOf (entryNodes entries) x.2 := by
  match entries with
  | [] =>
    cases h
    exact .inl rfl
  -- the key is read first, and then the value
  | [(k, v)] =>
    rw [buildAlone] at h
    obtain h | h := Built.earlier_eq_some h
    · exact (fault_build (.inl rfl) h).mono (by simp [entryNodes])
    · exact (fault_build (.inl rfl) h).mono (by simp [entryNodes])
  | _ :: _ :: _ =>
    cases h
    exact .inl rfl

/-- What is wrong with the entries of a map was so before, or is wrong in one of them. -/
private theorem fault_buildOwn {level : Nat} {done : Built (List (Value × Value))}
    {entries : List (Node × Node)} {x : Nat × YamlFault}
    (h : (buildOwn level done entries).fault = some x) :
    done.fault = some x ∨ IsFaultOf (entryNodes entries) x.2 := by
  match entries with
  | [] =>
    rw [buildOwn] at h
    exact .inl h
  | (k, v) :: rest =>
    rw [buildOwn] at h
    -- the fault is in the rest of the entries, or in this one
    obtain h | h := fault_buildOwn h
    · split at h
      next => exact .inl h
      next =>
        -- the entries before, the key, the value, or the shape of the key
        obtain h | h | h | h := Built.fault_enter h
        · exact .inl h
        · exact .inr ((fault_build (keyTag_eq_or k) h).mono (by simp [entryNodes]))
        · exact .inr ((fault_build (.inl rfl) h).mono (by simp [entryNodes]))
        · exact .inr (.inl h)
    · exact .inr (h.mono (by simp [entryNodes]))

/-- What is wrong with merged entries was so before, or is wrong in what is merged. -/
private theorem fault_buildMerged {level : Nat} {done : Built (List (Value × Value))}
    {entries : List (Node × Node)} {x : Nat × YamlFault}
    (h : (buildMerged level done entries).fault = some x) :
    done.fault = some x ∨ IsFaultOf (entryNodes entries) x.2 := by
  match entries with
  | [] =>
    rw [buildMerged] at h
    exact .inl h
  | (k, v) :: rest =>
    rw [buildMerged] at h
    -- the fault is in the rest of the entries, or in this one
    obtain h | h := fault_buildMerged h
    · split at h
      next =>
        exact (fault_buildContribution h).imp_right fun h => h.mono (by simp [entryNodes])
      next => exact .inl h
    · exact .inr (h.mono (by simp [entryNodes]))

/-- What is merged is a map, and what is wrong with it is wrong in that map. -/
private theorem fault_buildContribution {level : Nat} {done : Built (List (Value × Value))}
    {n : Node} {x : Nat × YamlFault} (h : (buildContribution level done n).fault = some x) :
    done.fault = some x ∨ IsFaultOf [n] x.2 := by
  match n with
  | .scalar t cs =>
    rw [buildContribution] at h
    exact .inl h
  -- a list contributes its items one by one
  | .list t items =>
    rw [buildContribution] at h
    exact (fault_buildContributions h).imp_right .list
  | .map t entries =>
    rw [buildContribution] at h
    obtain h | h := fault_buildOwn h
    · exact (fault_buildMerged h).imp_right .map
    · exact .inr h.map

/-- The same for a list of maps to be merged. -/
private theorem fault_buildContributions {level : Nat} {done : Built (List (Value × Value))}
    {items : List Node} {x : Nat × YamlFault}
    (h : (buildContributions level done items).fault = some x) :
    done.fault = some x ∨ IsFaultOf items x.2 := by
  match items with
  | [] =>
    rw [buildContributions] at h
    exact .inl h
  | n :: rest =>
    rw [buildContributions] at h
    obtain h | h := fault_buildContribution h
    · exact (fault_buildContributions h).imp_right fun h => h.mono (List.subset_cons_self n rest)
    · exact .inr (h.mono (List.cons_subset_cons n (List.nil_subset rest)))

end

/-! ### Texts -/

/-- Why a text has no value though it may follow the rules: something in it is wrong, or it is read
into a node in which another one lacks a value. -/
theorem fault_ofText {text : List Char} {f : YamlFault} (h : ofText text = .error f) :
    Lexical f ∨ ∃ n, Node.ofText? text = .ok (some n) ∧ ∃ m, Node.Within m n ∧ m.Lacks f := by
  rw [ofText] at h
  cases hnode : Node.ofText? text with
  -- the text is no document
  | error g =>
    rw [hnode] at h
    cases h
    exact .inl (Node.lexical_of_ofText? text _ hnode)
  | ok n? =>
    rw [hnode] at h
    cases n? with
    | none => cases h
    -- the document has a node, and the fault is met in building its value
    | some n =>
      simp only [Bind.bind, Except.bind] at h
      cases hfault : (build 0 n.tag n).fault with
      | none =>
        rw [hfault] at h
        cases h
      | some x =>
        rw [hfault] at h
        cases h
        -- a shape that is wrong is a fault of the text, a value that is missing is one of a node
        obtain hshape | ⟨n', hn, m, hm, hlacks⟩ := fault_build (.inl rfl) hfault
        · exact .inl (hshape ▸ .malformed)
        · obtain rfl := List.mem_singleton.1 hn
          exact .inr ⟨n', rfl, m, hm, hlacks⟩

end Chronicle.Yaml
