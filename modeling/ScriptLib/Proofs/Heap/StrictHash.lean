import ScriptLib.Heap.Hash
import ScriptLib.Proofs.Heap.Slot
import ScriptLib.Proofs.Heap.Symmetry
import ScriptLib.Proofs.Number.Rounding
import Mathlib

/-!
# Strictly equal values hash alike

Two values are strictly equal when they are of one kind and agree part by part: two nils,
one boolean, two numbers equal as doubles or both NaN, one text, two lists whose elements
are strictly equal in order, two maps whose entries pair up, key with key and value with
value, once the second map's entries are put in a suitable order. The relation is the
greatest one that unfolds so (`StrictlyEqual`), which covers cyclic values as well as
acyclic ones.

Strictly equal values have one deep hash at every depth (`hash_eq_of_strictlyEqual`). The
proof is an induction on the depth. A list stops below depth 1 and a map below depth 0,
where only the sizes count, and the sizes of strictly equal containers agree. Above that,
the hash of a container folds its parts' hashes by exclusive or, and exclusive or is
associative and commutative, so the order in which the entries of a map sit does not
matter (`foldl_xor32_perm`). A key that is a text is hashed by its text and any other key
by its deep hash one level down; strict equality keeps texts with texts.

Plain deep equality is not enough: `1` and `"1"` are deep-equal and hash differently.
-/

namespace ScriptLib

/-! ## Exclusive or of 32-bit words -/

namespace Number

/-- The low 32 bits of an integer, as a natural number. -/
def word32 (a : Int) : Nat := (a % 2 ^ 32).toNat

theorem word32_lt (a : Int) : word32 a < 2 ^ 32 := by
  unfold word32
  omega

theorem word32_ofNat {n : Nat} (hn : n < 2 ^ 32) : word32 (wrap32 n) = n := by
  simp only [word32, wrap32, Int.bmod_def]
  split <;> omega

theorem xor32_eq (a b : Int) : xor32 a b = wrap32 (word32 a ^^^ word32 b : Nat) := rfl

theorem word32_xor32 (a b : Int) : word32 (xor32 a b) = word32 a ^^^ word32 b :=
  word32_ofNat (Nat.xor_lt_two_pow (word32_lt a) (word32_lt b))

theorem xor32_comm (a b : Int) : xor32 a b = xor32 b a := by
  rw [xor32_eq, xor32_eq, Nat.xor_comm]

theorem xor32_assoc (a b c : Int) : xor32 (xor32 a b) c = xor32 a (xor32 b c) := by
  rw [xor32_eq (xor32 a b), xor32_eq a (xor32 b c), word32_xor32, word32_xor32, Nat.xor_assoc]

/-- Folding words into a running word by exclusive or forgets their order. -/
theorem foldl_xor32_perm {α : Type} (g : α → Int) {l₁ l₂ : List α} (hl : l₁.Perm l₂)
    (start : Int) :
    l₁.foldl (fun acc x => xor32 acc (g x)) start =
      l₂.foldl (fun acc x => xor32 acc (g x)) start := by
  refine hl.foldl_eq' (fun x _ y _ z => ?_) start
  rw [xor32_assoc, xor32_comm (g x), ← xor32_assoc]

/-- Folds of pairwise equal words agree. -/
theorem foldl_xor32_forall₂ {α β : Type} (f : α → Int) (g : β → Int) {l₁ : List α} {l₂ : List β}
    (hl : List.Forall₂ (fun x y => f x = g y) l₁ l₂) (start : Int) :
    l₁.foldl (fun acc x => xor32 acc (f x)) start =
      l₂.foldl (fun acc y => xor32 acc (g y)) start := by
  induction hl generalizing start with
  | nil => rfl
  | cons hxy _ ih =>
    simp only [List.foldl_cons]
    rw [hxy]
    exact ih _

/-! ## Numbers that compare equal mix alike -/

/-- Mixing reads a number only through its decoded fields: a finite number is the pattern of
its fields, and NaN and the infinities mix to 0. -/
theorem mixHash_congr {x y : Double} (h : Binary.ofDouble x = Binary.ofDouble y) (c : Int) :
    mixHash x c = mixHash y c := by
  cases hy : Binary.ofDouble y with
  | finite neg m e =>
    rw [← Binary.toDouble_finiteBits (h.trans hy), ← Binary.toDouble_finiteBits hy]
  | nan => simp [mixHash, addInt, toInt32, isFinite, h, hy]
  | inf => simp [mixHash, addInt, toInt32, isFinite, h, hy]

theorem mixHash_of_isNaN {x : Double} (h : isNaN x = true) (c : Int) : mixHash x c = 0 := by
  unfold isNaN at h
  split at h
  · rename_i hx
    simp [mixHash, addInt, toInt32, isFinite, hx]
  · cases h

/-- Numbers equal as doubles, or both NaN, mix alike: the two zeros both mix to zero, and
any other value has one pattern. -/
theorem mixHash_eq_of_eq {x y : Double} (h : eq x y = true ∨ isNaN x = true ∧ isNaN y = true)
    (c : Int) : mixHash x c = mixHash y c := by
  rcases h with h | ⟨hx, hy⟩
  · unfold eq compare? at h
    cases hx : Binary.ofDouble x with
    | nan => simp [hx] at h
    | inf a =>
      cases hy : Binary.ofDouble y with
      | nan => simp [hx, hy] at h
      | inf b =>
        cases a <;> cases b <;> simp [hx, hy] at h
        all_goals exact mixHash_congr (hx.trans hy.symm) c
      | finite => cases a <;> simp [hx, hy] at h
    | finite a m e =>
      cases hy : Binary.ofDouble y with
      | nan => simp [hx, hy] at h
      | inf b => cases b <;> simp [hx, hy] at h
      | finite b n f =>
        simp only [hx, hy, beq_iff_eq, Option.some.injEq, Std.compare_eq_eq_iff_eq] at h
        rcases Binary.fields_eq_of_scaled_eq (Binary.canonical_of_ofBits hx)
          (Binary.canonical_of_ofBits hy) h with ⟨rfl, rfl⟩ | ⟨rfl, rfl, rfl⟩
        · simp [mixHash, hx, hy]
        · exact mixHash_congr (hx.trans hy.symm) c
  · rw [mixHash_of_isNaN hx, mixHash_of_isNaN hy]

end Number

/-! ## Strict equality -/

namespace Heap

/-- One level of strict equality, with `R` relating the parts: values of one kind whose
scalars agree, lists whose elements pair up in order, maps whose entries pair up once the
second map's entries are put in a suitable order. -/
inductive StrictStep (h : Heap) (R : Value → Value → Prop) : Value → Value → Prop
  | nil : StrictStep h R .nil .nil
  | bool (b : Bool) : StrictStep h R (.bool b) (.bool b)
  | num {x y : Double}
      (hxy : Number.eq x y = true ∨ Number.isNaN x = true ∧ Number.isNaN y = true) :
      StrictStep h R (.num x) (.num y)
  | str (s : String) : StrictStep h R (.str s) (.str s)
  | list {a b : Handle} (hab : List.Forall₂ R (h.items a).toList (h.items b).toList) :
      StrictStep h R (.list a) (.list b)
  | map {a b : Handle} (es : List Entry) (hes : es.Perm (h.table b).entries)
      (hab : List.Forall₂ (fun e e' => R e.key e'.key ∧ R e.val e'.val) (h.table a).entries es) :
      StrictStep h R (.map a) (.map b)

/-- Strict equality: related by some relation each of whose pairs unfolds by `StrictStep`
into pairs of the relation. -/
def StrictlyEqual (h : Heap) (a b : Value) : Prop :=
  ∃ R : Value → Value → Prop, (∀ x y, R x y → StrictStep h R x y) ∧ R a b

/-- The hash of a key one level below a map: a text by its text hash, any other key by its
deep hash. -/
def keyHashAt (h : Heap) (fuel : Nat) : Value → Int
  | .str s => Text.hash s
  | k => h.hashAt fuel k

/-- The hash of a map folds one word per entry, its key's hash and its value's. -/
theorem hashAt_map_succ (h : Heap) (fuel : Nat) (m : Handle) :
    h.hashAt (fuel + 1) (.map m) =
      (h.table m).entries.foldl
        (fun acc e => Number.xor32 acc
          (Number.xor32 (h.keyHashAt fuel e.key) (h.hashAt fuel e.val)))
        (Number.mixHash (Number.ofInt (h.table m).entries.length) 0) := by
  have hstep : (fun acc (e : Entry) => Number.xor32 (Number.xor32 acc
      (match e.key with
        | .str s => Text.hash s
        | k => h.hashAt fuel k)) (h.hashAt fuel e.val)) =
      fun acc e => Number.xor32 acc
        (Number.xor32 (h.keyHashAt fuel e.key) (h.hashAt fuel e.val)) := by
    funext acc e
    rw [Number.xor32_assoc]
    cases e.key <;> rfl
  rw [hashAt.eq_3]
  exact congrArg (fun step => List.foldl step _ _) hstep

variable {h : Heap} {R : Value → Value → Prop}

theorem StrictStep.mono {S : Value → Value → Prop} (hRS : ∀ x y, R x y → S x y) {a b : Value}
    (hab : h.StrictStep R a b) : h.StrictStep S a b := by
  cases hab with
  | nil => exact .nil
  | bool b => exact .bool b
  | num hn => exact .num hn
  | str s => exact .str s
  | list hl => exact .list (hl.imp hRS)
  | map es hes hm => exact .map es hes (hm.imp fun _ _ hkv => ⟨hRS _ _ hkv.1, hRS _ _ hkv.2⟩)

/-- Every value unfolds into itself. -/
theorem strictStep_self (h : Heap) (a : Value) : h.StrictStep (· = ·) a a := by
  cases a with
  | nil => exact .nil
  | num x =>
    refine .num ?_
    rcases Number.eq_self_or_isNaN x with hx | hx
    · exact .inl hx
    · exact .inr ⟨hx, hx⟩
  | str s => exact .str s
  | bool b => exact .bool b
  | list l => exact .list (List.forall₂_same.2 fun _ _ => rfl)
  | map m => exact .map _ (List.Perm.refl _) (List.forall₂_same.2 fun _ _ => ⟨rfl, rfl⟩)

/-- Strict equality is reflexive, NaN included. -/
theorem strictlyEqual_refl (h : Heap) (a : Value) : h.StrictlyEqual a a :=
  ⟨(· = ·), fun x _ hxy => hxy ▸ strictStep_self h x, rfl⟩

theorem StrictStep.length_items {a b : Handle} (hab : List.Forall₂ R (h.items a).toList
    (h.items b).toList) : (h.items a).toList.length = (h.items b).toList.length :=
  hab.length_eq

theorem StrictStep.length_entries {a b : Handle} {es : List Entry}
    (hes : es.Perm (h.table b).entries)
    (hab : List.Forall₂ (fun e e' => R e.key e'.key ∧ R e.val e'.val) (h.table a).entries es) :
    (h.table a).entries.length = (h.table b).entries.length :=
  hab.length_eq.trans hes.length_eq

/-- Strictly equal keys hash alike one level down when strictly equal values do: strict
equality keeps a text with the same text, and any other key with a key that is no text. -/
theorem keyHashAt_eq (hR : ∀ x y, R x y → StrictStep h R x y) {fuel : Nat}
    (below : ∀ x y, R x y → h.hashAt fuel x = h.hashAt fuel y) {k k' : Value} (hk : R k k') :
    h.keyHashAt fuel k = h.keyHashAt fuel k' := by
  cases hR k k' hk with
  | str s => rfl
  | nil => exact below _ _ hk
  | bool => exact below _ _ hk
  | num => exact below _ _ hk
  | list => exact below _ _ hk
  | map => exact below _ _ hk

/-- Values related by a relation that unfolds by `StrictStep` hash alike with any fuel. -/
theorem hashAt_eq_of_strictStep (hR : ∀ x y, R x y → StrictStep h R x y) (fuel : Nat) :
    ∀ x y, R x y → h.hashAt fuel x = h.hashAt fuel y := by
  -- the induction is on the fuel: every container passes one less to its parts
  induction fuel with
  | zero =>
    intro x y hxy
    cases hR x y hxy with
    | nil => rfl
    | bool => rfl
    | num hn => exact Number.mixHash_eq_of_eq hn 0
    | str => rfl
    | list hab => simp only [hashAt, StrictStep.length_items hab]
    | map es hes hab => simp only [hashAt, StrictStep.length_entries hes hab]
  | succ f ih =>
    intro x y hxy
    cases hR x y hxy with
    | nil => rfl
    | bool => rfl
    | num hn => exact Number.mixHash_eq_of_eq hn 0
    | str => rfl
    | list hab =>
      cases f with
      | zero => simp only [hashAt, StrictStep.length_items hab]
      | succ f =>
        simp only [hashAt, StrictStep.length_items hab]
        exact Number.foldl_xor32_forall₂ _ _ (hab.imp fun p q hpq => ih p q hpq) _
    | @map a b es hes hab =>
      rw [hashAt_map_succ, hashAt_map_succ, StrictStep.length_entries hes hab]
      have hpair : List.Forall₂ (fun e e' =>
          Number.xor32 (h.keyHashAt f e.key) (h.hashAt f e.val) =
            Number.xor32 (h.keyHashAt f e'.key) (h.hashAt f e'.val)) (h.table a).entries es :=
        hab.imp fun e e' ⟨hk, hv⟩ => by rw [keyHashAt_eq hR ih hk, ih _ _ hv]
      rw [Number.foldl_xor32_forall₂ _ _ hpair]
      exact Number.foldl_xor32_perm _ hes _

/-- Strictly equal values have one deep hash at every depth. -/
theorem hash_eq_of_strictlyEqual {a b : Value} (hab : h.StrictlyEqual a b) (depth : Int) :
    h.hash a depth = h.hash b depth := by
  obtain ⟨R, hR, hr⟩ := hab
  exact hashAt_eq_of_strictStep hR _ a b hr

/-- A map and a map of the same entries inserted the other way round, one of them under a
list key, are strictly equal and hash alike. -/
theorem reordered_maps_hash_alike :
    let t₀ : Table := { entries := [⟨0, .str "a", .bool true⟩, ⟨1, .list 0, .str "y"⟩] }
    let t₁ : Table := { entries := [⟨0, .list 0, .str "y"⟩, ⟨1, .str "a", .bool true⟩] }
    let h : Heap := { lists := #[#[.str "x"]], maps := #[t₀, t₁] }
    h.StrictlyEqual (.map 0) (.map 1) ∧ h.hash (.map 0) 16 = h.hash (.map 1) 16 := by
  intro t₀ t₁ h
  have hs : h.StrictlyEqual (.map 0) (.map 1) := by
    refine ⟨fun x y => x = y ∨ (x = .map 0 ∧ y = .map 1), ?_, .inr ⟨rfl, rfl⟩⟩
    rintro x y (rfl | ⟨rfl, rfl⟩)
    · exact (strictStep_self h x).mono fun _ _ => .inl
    · refine .map [⟨1, .str "a", .bool true⟩, ⟨0, .list 0, .str "y"⟩] (List.Perm.swap _ _ _) ?_
      exact .cons ⟨.inl rfl, .inl rfl⟩ (.cons ⟨.inl rfl, .inl rfl⟩ .nil)
  exact ⟨hs, hash_eq_of_strictlyEqual hs 16⟩

end Heap

end ScriptLib
