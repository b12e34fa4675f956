import ScriptLib.Registry

/-!
# Binding arguments to parameters

A call's arguments meet a parameter list of distinct names in three rounds, and each round
has its own error. Surplus positional arguments are an arity mismatch, and nothing else
is. Then the named arguments are taken in their order: one that names no parameter, or a
parameter already filled by a positional argument or by an earlier named one, stops the
binding (`Takes` says when a named argument is taken). Last, the first parameter in
declaration order that is still empty and required is reported; when there is none, the
bound values are, place by place, the positional argument, else the named one, else the
default (`bind_follows_its_rules`).

The proof follows the three rounds. The slots after some named arguments have been taken
are `slotsAfter`; taking one more is one step of `fillNamed` (`fillNamed_takes`), refusing
one is another (`fillNamed_refuses`), and the run over all named arguments follows by
induction. The last round is a `mapM` over slots and parameters, which fails at its first
failing place or maps every place.
-/

namespace ScriptLib

instance ParamDefault.decidableEqRequired (d : ParamDefault) : Decidable (d = .required) :=
  match d with
  | .required => isTrue rfl
  | .nil => isFalse nofun
  | .number _ => isFalse nofun
  | .text _ => isFalse nofun

theorem ParamDefault.value?_eq_none_iff {d : ParamDefault} : d.value? = none ↔ d = .required := by
  cases d <;> simp [ParamDefault.value?]

namespace Binding

/-! ## `mapM` in `Except` -/

section MapM

variable {α β ε : Type} (g : α → Except ε β)

/-- A `mapM` whose every step succeeds maps the list. -/
theorem mapM_eq_ok_map (h : α → β) :
    ∀ {xs : List α}, (∀ x ∈ xs, g x = .ok (h x)) → xs.mapM g = .ok (xs.map h)
  | [], _ => rfl
  | x :: xs, hall => by
    have hx : g x = .ok (h x) := hall x List.mem_cons_self
    have hxs : xs.mapM g = .ok (xs.map h) :=
      mapM_eq_ok_map h fun y hy => hall y (List.mem_cons_of_mem x hy)
    simp only [List.mapM_cons, hx, hxs, List.map_cons]
    rfl

/-- A `mapM` fails with the error of its first failing step. -/
theorem mapM_eq_error_of_first {e : ε} :
    ∀ {xs : List α} {i : Nat} {x : α}, xs[i]? = some x → g x = .error e →
      (∀ k y, k < i → xs[k]? = some y → ∃ b, g y = .ok b) → xs.mapM g = .error e
  | [], _, _, hx, _, _ => by simp at hx
  | y :: xs, 0, x, hx, hgx, _ => by
    simp only [List.getElem?_cons_zero, Option.some.injEq] at hx
    subst hx
    simp only [List.mapM_cons, hgx]
    rfl
  | y :: xs, i + 1, x, hx, hgx, hbefore => by
    obtain ⟨b, hb⟩ := hbefore 0 y (Nat.zero_lt_succ i) rfl
    have hrest : xs.mapM g = .error e :=
      mapM_eq_error_of_first (i := i) (by simpa using hx) hgx fun k z hk hz =>
        hbefore (k + 1) z (Nat.succ_lt_succ hk) (by simpa using hz)
    simp only [List.mapM_cons, hb, hrest]
    rfl

/-- The error of a `mapM` is the error of one of its steps. -/
theorem mapM_error_mem {e : ε} :
    ∀ {xs : List α}, xs.mapM g = .error e → ∃ x ∈ xs, g x = .error e
  | [], h => by cases h
  | x :: xs, h => by
    rw [List.mapM_cons] at h
    cases hx : g x with
    | error e' =>
      rw [hx] at h
      simp only [Bind.bind, Except.bind, Except.error.injEq] at h
      exact ⟨x, List.mem_cons_self, h ▸ hx⟩
    | ok b =>
      cases hxs : xs.mapM g with
      | error e' =>
        rw [hx, hxs] at h
        simp only [Bind.bind, Except.bind, Except.error.injEq] at h
        obtain ⟨y, hy, hgy⟩ := mapM_error_mem (h ▸ hxs)
        exact ⟨y, List.mem_cons_of_mem x hy, hgy⟩
      | ok bs =>
        rw [hx, hxs] at h
        cases h

end MapM

/-! ## The slots -/

section Slots

variable (params : List Param) (positional : List Value)

/-- The slots once the positional arguments and the named arguments `named` are placed:
each holds the positional argument of its place, else the value named after its
parameter. -/
def slotsAfter (named : List (String × Value)) : List (Option Value) :=
  params.mapIdx fun i p => positional[i]?.or (named.lookup p.name)

/-- A named argument `name`, coming after the named arguments `earlier`, is taken: it names
a parameter that no positional argument fills and none of `earlier` names. -/
def Takes (earlier : List (String × Value)) (name : String) : Prop :=
  name ∈ params.map Param.name ∧ name ∉ (params.take positional.length).map Param.name ∧
    name ∉ earlier.map Prod.fst

instance (earlier : List (String × Value)) (name : String) :
    Decidable (Takes params positional earlier name) :=
  inferInstanceAs (Decidable (_ ∧ _ ∧ _))

/-- Every named argument of `named` is taken, after those before it. -/
def AllTaken (named : List (String × Value)) : Prop :=
  ∀ i name v, named[i]? = some (name, v) → Takes params positional (named.take i) name

/-- The parameter `p` at place `i` is left empty and is required. -/
def Missing (named : List (String × Value)) (i : Nat) (p : Param) : Prop :=
  positional.length ≤ i ∧ p.name ∉ named.map Prod.fst ∧ p.default = .required

instance (named : List (String × Value)) (i : Nat) (p : Param) :
    Decidable (Missing positional named i p) :=
  inferInstanceAs (Decidable (_ ∧ _ ∧ _))

@[simp] theorem length_slotsAfter (named : List (String × Value)) :
    (slotsAfter params positional named).length = params.length := by
  simp [slotsAfter]

/-- A slot is empty when no positional argument reaches its place and no named argument
names its parameter. -/
theorem slot_eq_none_iff (named : List (String × Value)) (i : Nat) (p : Param) :
    positional[i]?.or (named.lookup p.name) = none ↔
      positional.length ≤ i ∧ p.name ∉ named.map Prod.fst := by
  simp only [Option.or_eq_none_iff, List.getElem?_eq_none_iff, List.lookup_eq_none_iff,
    List.mem_map, not_exists, not_and, bne_iff_ne, ne_eq]
  exact and_congr_right fun _ => ⟨fun h q hq heq => h q hq heq.symm,
    fun h q hq heq => h q hq heq.symm⟩

theorem getElem?_slotsAfter (named : List (String × Value)) (i : Nat) :
    (slotsAfter params positional named)[i]? =
      params[i]?.map fun p => positional[i]?.or (named.lookup p.name) := by
  simp [slotsAfter]

/-- Before any named argument, the slots are the positional arguments padded with empty
ones, as binding lays them out. -/
theorem slotsAfter_nil (h : positional.length ≤ params.length) :
    slotsAfter params positional [] =
      positional.map some ++ List.replicate (params.length - positional.length) none := by
  apply List.ext_getElem?
  intro i
  rw [getElem?_slotsAfter, List.getElem?_append]
  by_cases hi : i < positional.length
  · have hp : i < params.length := by omega
    simp [hi, List.getElem?_eq_getElem hp]
  · rw [List.getElem?_eq_none (by omega : positional.length ≤ i)]
    by_cases hp : i < params.length
    · simp [hi, List.getElem?_eq_getElem hp, List.getElem?_replicate]
      omega
    · simp [List.getElem?_eq_none (by omega : params.length ≤ i), hi, List.getElem?_replicate]
      omega

end Slots

/-! ## Named arguments, one at a time -/

section Named

variable {params : List Param} {positional : List Value}

/-- The place of a parameter's name. -/
theorem findIdx_name {name : String} (h : name ∈ params.map Param.name) :
    ∃ i, params.findIdx? (·.name == name) = some i ∧ ∃ p, params[i]? = some p ∧ p.name = name := by
  obtain ⟨p, hp, hname⟩ := List.mem_map.1 h
  obtain ⟨i, hfind⟩ : ∃ i, params.findIdx? (·.name == name) = some i := by
    apply Option.isSome_iff_exists.1
    rw [List.findIdx?_isSome, List.any_eq_true]
    exact ⟨p, hp, by simp [hname]⟩
  obtain ⟨hi, hi_name, -⟩ := List.findIdx?_eq_some_iff_getElem.1 hfind
  exact ⟨i, hfind, params[i], List.getElem?_eq_getElem hi, by simpa using hi_name⟩

/-- With distinct names, a place holding a parameter's name is that parameter's place. -/
theorem place_eq_of_name (hnames : (params.map Param.name).Nodup) {i k : Nat} {p q : Param}
    (hp : params[i]? = some p) (hq : params[k]? = some q) (h : p.name = q.name) : i = k := by
  have hi : (params.map Param.name)[i]? = some p.name := by simp [hp]
  have hk : (params.map Param.name)[k]? = some p.name := by simp [hq, h]
  have hlen : i < (params.map Param.name).length := by
    simpa using (List.getElem?_eq_some_iff.1 hp).1
  exact (List.getElem?_inj hlen hnames).1 (hi.trans hk.symm)

/-- A parameter at a place before the last positional argument is filled by it. -/
theorem mem_take_of_place {i : Nat} {p : Param} (hp : params[i]? = some p)
    (hi : i < positional.length) : p.name ∈ (params.take positional.length).map Param.name :=
  List.mem_map.2 ⟨p, List.mem_of_getElem? (by rwa [List.getElem?_take_of_lt hi]), rfl⟩

/-- A name filled by a positional argument sits at a place before the last of them. -/
theorem place_lt_of_mem_take (hnames : (params.map Param.name).Nodup) {i : Nat} {p : Param}
    (hp : params[i]? = some p) (h : p.name ∈ (params.take positional.length).map Param.name) :
    i < positional.length := by
  obtain ⟨q, hq, hqname⟩ := List.mem_map.1 h
  obtain ⟨k, hk⟩ := List.mem_iff_getElem?.1 hq
  have hklt : k < positional.length := Nat.lt_of_not_le fun hge => by
    rw [List.getElem?_take, if_neg (by omega)] at hk
    cases hk
  rw [List.getElem?_take, if_pos hklt] at hk
  have := place_eq_of_name hnames hp hk hqname.symm
  omega

variable (function : String)

/-- Taking a named argument fills its parameter's slot, which was empty. -/
theorem fillNamed_takes (hnames : (params.map Param.name).Nodup)
    {earlier rest : List (String × Value)} {name : String} {v : Value}
    (ht : Takes params positional earlier name) :
    fillNamed function params (slotsAfter params positional earlier) ((name, v) :: rest) =
      fillNamed function params (slotsAfter params positional (earlier ++ [(name, v)])) rest := by
  obtain ⟨hmem, hpos, hearlier⟩ := ht
  obtain ⟨i, hfind, p, hp, rfl⟩ := findIdx_name hmem
  have hi : positional.length ≤ i :=
    Nat.le_of_not_lt fun hlt => hpos (mem_take_of_place hp hlt)
  have hnone : earlier.lookup p.name = none := by
    rw [List.lookup_eq_none_iff]
    intro q hq
    exact bne_iff_ne.2 fun heq => hearlier (List.mem_map.2 ⟨q, hq, heq.symm⟩)
  have hempty : (slotsAfter params positional earlier).getD i none = none := by
    rw [List.getD_eq_getElem?_getD, getElem?_slotsAfter, hp,
      List.getElem?_eq_none (by omega : positional.length ≤ i)]
    simp [hnone]
  -- every other place holds another name, which the new argument leaves alone
  have hset : (slotsAfter params positional earlier).set i (some v) =
      slotsAfter params positional (earlier ++ [(p.name, v)]) := by
    apply List.ext_getElem?
    intro k
    rw [List.getElem?_set, getElem?_slotsAfter, getElem?_slotsAfter, length_slotsAfter]
    by_cases hk : i = k
    · subst hk
      have hlen : i < params.length := (List.getElem?_eq_some_iff.1 hp).1
      rw [if_pos rfl, if_pos hlen, hp, List.getElem?_eq_none (by omega : positional.length ≤ i)]
      simp [List.lookup_append, hnone]
    · rw [if_neg hk]
      cases hq : params[k]? with
      | none => rfl
      | some q =>
        have hne : (q.name == p.name) = false :=
          beq_eq_false_iff_ne.2 fun h => hk (place_eq_of_name hnames hp hq h.symm)
        simp [List.lookup_append, List.lookup_cons, hne]
  simp only [fillNamed, hfind, hempty, Option.isSome_none, Bool.false_eq_true, if_false, hset]

/-- A named argument that is not taken stops the binding: as unknown when it names no
parameter, as given twice when its parameter is already filled. -/
theorem fillNamed_refuses (hnames : (params.map Param.name).Nodup)
    {earlier rest : List (String × Value)} {name : String} {v : Value}
    (ht : ¬ Takes params positional earlier name) :
    fillNamed function params (slotsAfter params positional earlier) ((name, v) :: rest) =
      .error (badArgument function
        (if name ∈ params.map Param.name then s!"argument '{name}' given twice"
          else s!"unknown argument '{name}'")) := by
  by_cases hmem : name ∈ params.map Param.name
  · obtain ⟨i, hfind, p, hp, rfl⟩ := findIdx_name hmem
    have hfilled : ((slotsAfter params positional earlier).getD i none).isSome = true := by
      rw [List.getD_eq_getElem?_getD, getElem?_slotsAfter, hp]
      simp only [Option.map_some, Option.getD_some, Option.isSome_or, Bool.or_eq_true]
      by_cases hpos : p.name ∈ (params.take positional.length).map Param.name
      · left
        have := place_lt_of_mem_take hnames hp hpos
        simp [List.getElem?_eq_getElem this]
      · right
        have hear : p.name ∈ earlier.map Prod.fst :=
          Classical.byContradiction fun h => ht ⟨hmem, hpos, h⟩
        obtain ⟨q, hq, hqname⟩ := List.mem_map.1 hear
        exact List.lookup_isSome_iff.2 ⟨q, hq, by simp [hqname]⟩
    simp only [fillNamed, hfind, hfilled, if_true, hmem]
  · have hfind : params.findIdx? (·.name == name) = none := by
      rw [List.findIdx?_eq_none_iff]
      intro p hp
      exact beq_eq_false_iff_ne.2 fun heq => hmem (List.mem_map.2 ⟨p, hp, heq⟩)
    simp only [fillNamed, hfind, hmem, if_false]

/-- When every named argument is taken, filling gives the slots after all of them. -/
theorem fillNamed_of_taken (hnames : (params.map Param.name).Nodup) :
    ∀ (earlier : List (String × Value)) {named : List (String × Value)},
      (∀ i name v, named[i]? = some (name, v) →
        Takes params positional (earlier ++ named.take i) name) →
      fillNamed function params (slotsAfter params positional earlier) named =
        .ok (slotsAfter params positional (earlier ++ named))
  | earlier, [], _ => by simp [fillNamed]
  | earlier, (name, v) :: rest, htaken => by
    have hfirst := htaken 0 name v rfl
    rw [List.take_zero, List.append_nil] at hfirst
    rw [fillNamed_takes function hnames hfirst, fillNamed_of_taken hnames _, List.append_assoc,
      List.singleton_append]
    intro i n w hw
    have := htaken (i + 1) n w (by simpa using hw)
    simpa using this

/-- Filling stops at the first named argument that is not taken. -/
theorem fillNamed_of_refused (hnames : (params.map Param.name).Nodup) {name : String} {v : Value} :
    ∀ (earlier : List (String × Value)) {named : List (String × Value)} {j : Nat},
      named[j]? = some (name, v) →
      (∀ i n w, i < j → named[i]? = some (n, w) →
        Takes params positional (earlier ++ named.take i) n) →
      ¬ Takes params positional (earlier ++ named.take j) name →
      fillNamed function params (slotsAfter params positional earlier) named =
        .error (badArgument function
          (if name ∈ params.map Param.name then s!"argument '{name}' given twice"
            else s!"unknown argument '{name}'"))
  | _, [], _, hj, _, _ => by simp at hj
  | earlier, (n, w) :: rest, 0, hj, _, hrefused => by
    simp only [List.getElem?_cons_zero, Option.some.injEq, Prod.mk.injEq] at hj
    obtain ⟨rfl, rfl⟩ := hj
    rw [List.take_zero, List.append_nil] at hrefused
    exact fillNamed_refuses function hnames hrefused
  | earlier, (n, w) :: rest, j + 1, hj, hbefore, hrefused => by
    have hfirst := hbefore 0 n w (Nat.zero_lt_succ j) rfl
    rw [List.take_zero, List.append_nil] at hfirst
    rw [fillNamed_takes function hnames hfirst]
    apply fillNamed_of_refused hnames _ (j := j) (by simpa using hj)
    · intro i m u hi hu
      simpa using hbefore (i + 1) m u (Nat.succ_lt_succ hi) (by simpa using hu)
    · simpa using hrefused

/-- Every error of filling is a bad argument of the function. -/
theorem fillNamed_error {e : Error} :
    ∀ {slots : List (Option Value)} {named : List (String × Value)},
      fillNamed function params slots named = .error e → ∃ message, e = badArgument function message
  | _, [], h => by cases h
  | slots, (name, v) :: rest, h => by
    unfold fillNamed at h
    split at h
    · cases h
      exact ⟨_, rfl⟩
    · split at h
      · cases h
        exact ⟨_, rfl⟩
      · exact fillNamed_error h

end Named

/-! ## The whole binding -/

section Bind

variable (function : String) (params : List Param) (positional : List Value)
  (named : List (String × Value))

/-- Surplus positional arguments are an arity mismatch. -/
theorem bind_of_surplus (h : params.length < positional.length) :
    bind function params positional named =
      .error ⟨.arityMismatch function params.length positional.length, []⟩ := by
  simp [ScriptLib.bind, h]
  rfl

/-- Within the arity, binding fails only with bad arguments. -/
theorem bind_error_of_fits (h : positional.length ≤ params.length) {e : Error}
    (he : bind function params positional named = .error e) :
    ∃ message, e = badArgument function message := by
  unfold ScriptLib.bind at he
  simp only [gt_iff_lt, Nat.not_lt.2 h, if_false] at he
  cases hf : fillNamed function params
      (positional.map some ++ List.replicate (params.length - positional.length) none) named with
  | error e' =>
    rw [hf] at he
    cases he
    exact fillNamed_error function hf
  | ok slots =>
    rw [hf] at he
    obtain ⟨⟨slot, p⟩, -, hx⟩ := mapM_error_mem _ he
    cases slot with
    | some v => cases hx
    | none =>
      cases hd : p.default.value? with
      | some v => simp [hd] at hx
      | none =>
        simp only [hd] at hx
        cases hx
        exact ⟨_, rfl⟩

/-- Binding stops at the first named argument that is not taken. -/
theorem bind_of_refused (hnames : (params.map Param.name).Nodup)
    (h : positional.length ≤ params.length) {j : Nat} {name : String} {v : Value}
    (hj : named[j]? = some (name, v)) (hbefore : AllTaken params positional (named.take j))
    (hrefused : ¬ Takes params positional (named.take j) name) :
    bind function params positional named =
      .error (badArgument function
        (if name ∈ params.map Param.name then s!"argument '{name}' given twice"
          else s!"unknown argument '{name}'")) := by
  unfold ScriptLib.bind
  simp only [gt_iff_lt, Nat.not_lt.2 h, if_false]
  rw [← slotsAfter_nil params positional h]
  rw [fillNamed_of_refused function hnames [] hj ?_ (by simpa using hrefused)]
  · rfl
  · intro i n w hi hw
    have := hbefore i n w (by rwa [List.getElem?_take_of_lt hi])
    simpa [List.take_take, Nat.min_eq_left (Nat.le_of_lt hi)] using this

/-- Once every named argument is taken, binding is the last round over the slots. -/
theorem bind_of_allTaken (hnames : (params.map Param.name).Nodup)
    (h : positional.length ≤ params.length) (hall : AllTaken params positional named) :
    bind function params positional named =
      ((slotsAfter params positional named).zip params).mapM fun (slot, p) =>
        match slot with
        | some v => .ok v
        | none =>
          match p.default.value? with
          | some v => .ok v
          | none => .error (badArgument function s!"missing required argument '{p.name}'") := by
  unfold ScriptLib.bind
  simp only [gt_iff_lt, Nat.not_lt.2 h, if_false]
  rw [← slotsAfter_nil params positional h,
    fillNamed_of_taken function hnames [] fun i n w hw => by simpa using hall i n w hw]
  rfl

/-- A parameter that is not missing gets a value: its argument, or its default. -/
theorem exists_value_of_not_missing {i : Nat} {p : Param}
    (hnot : ¬ Missing positional named i p) :
    ∃ v, positional[i]?.or ((named.lookup p.name).or p.default.value?) = some v := by
  rw [← Option.or_assoc]
  cases hs : positional[i]?.or (named.lookup p.name) with
  | some v => exact ⟨v, rfl⟩
  | none =>
    obtain ⟨hi, hn⟩ := (slot_eq_none_iff positional named i p).1 hs
    cases hd : p.default.value? with
    | some d => exact ⟨d, rfl⟩
    | none => exact absurd ⟨hi, hn, ParamDefault.value?_eq_none_iff.1 hd⟩ hnot

/-- The slot and the parameter at a place of the last round. -/
theorem getElem?_zip_slotsAfter {i : Nat} {slot : Option Value} {p : Param}
    (h : ((slotsAfter params positional named).zip params)[i]? = some (slot, p)) :
    params[i]? = some p ∧ slot = positional[i]?.or (named.lookup p.name) := by
  obtain ⟨hs, hp⟩ := List.getElem?_zip_eq_some.1 h
  rw [getElem?_slotsAfter, hp] at hs
  exact ⟨hp, (Option.some.inj hs).symm⟩

/-- The first required parameter left empty is reported. -/
theorem bind_of_missing (hnames : (params.map Param.name).Nodup)
    (h : positional.length ≤ params.length) (hall : AllTaken params positional named)
    {i : Nat} {p : Param} (hp : params[i]? = some p) (hmissing : Missing positional named i p)
    (hbefore : ∀ k q, k < i → params[k]? = some q → ¬ Missing positional named k q) :
    bind function params positional named =
      .error (badArgument function s!"missing required argument '{p.name}'") := by
  rw [bind_of_allTaken function params positional named hnames h hall]
  obtain ⟨hi, hn, hreq⟩ := hmissing
  apply mapM_eq_error_of_first _ (i := i) (x := (none, p))
  · rw [List.getElem?_zip_eq_some, getElem?_slotsAfter, hp]
    exact ⟨by simp [(slot_eq_none_iff positional named i p).2 ⟨hi, hn⟩], rfl⟩
  · simp [ParamDefault.value?_eq_none_iff.2 hreq]
  · rintro k ⟨slot, q⟩ hk hy
    obtain ⟨hq, rfl⟩ := getElem?_zip_slotsAfter params positional named hy
    obtain ⟨v, hv⟩ := exists_value_of_not_missing positional named (hbefore k q hk hq)
    rw [← Option.or_assoc] at hv
    cases hs : positional[k]?.or (named.lookup q.name) with
    | some w => exact ⟨w, rfl⟩
    | none =>
      rw [hs, Option.none_or] at hv
      exact ⟨v, by simp [hv]⟩

/-- With every named argument taken and no required parameter left empty, binding gives
each parameter its positional argument, else its named one, else its default. -/
theorem bind_of_complete (hnames : (params.map Param.name).Nodup)
    (h : positional.length ≤ params.length) (hall : AllTaken params positional named)
    (hfull : ∀ (i : Nat) (p : Param), params[i]? = some p → ¬ Missing positional named i p) :
    ∃ values, bind function params positional named = .ok values ∧
      values.length = params.length ∧
      ∀ (i : Nat) (p : Param), params[i]? = some p →
        values[i]? = positional[i]?.or ((named.lookup p.name).or p.default.value?) := by
  let value : Option Value × Param → Value := fun x => (x.1.or x.2.default.value?).getD .nil
  refine ⟨((slotsAfter params positional named).zip params).map value, ?_, by simp, ?_⟩
  · rw [bind_of_allTaken function params positional named hnames h hall]
    apply mapM_eq_ok_map
    rintro ⟨slot, p⟩ hx
    obtain ⟨i, hi⟩ := List.mem_iff_getElem?.1 hx
    obtain ⟨hp, rfl⟩ := getElem?_zip_slotsAfter params positional named hi
    obtain ⟨v, hv⟩ := exists_value_of_not_missing positional named (hfull i p hp)
    rw [← Option.or_assoc] at hv
    cases hs : positional[i]?.or (named.lookup p.name) with
    | some w => rfl
    | none =>
      rw [hs, Option.none_or] at hv
      simp [value, hv]
  · intro i p hp
    obtain ⟨v, hv⟩ := exists_value_of_not_missing positional named (hfull i p hp)
    have hzip : ((slotsAfter params positional named).zip params)[i]? =
        some (positional[i]?.or (named.lookup p.name), p) :=
      List.getElem?_zip_eq_some.2 ⟨by rw [getElem?_slotsAfter, hp]; rfl, hp⟩
    rw [List.getElem?_map, hzip, hv]
    simp only [value, Option.map_some, Option.or_assoc, hv, Option.getD_some]

/-- An arity mismatch is exactly a surplus of positional arguments. -/
theorem bind_eq_arityMismatch_iff :
    bind function params positional named =
        .error ⟨.arityMismatch function params.length positional.length, []⟩ ↔
      params.length < positional.length := by
  refine ⟨fun he => Nat.lt_of_not_le fun hle => ?_, bind_of_surplus function params positional named⟩
  obtain ⟨message, hm⟩ := bind_error_of_fits function params positional named hle he
  cases hm

end Bind

end Binding

open Binding in
/-- Binding follows its three rounds, for any parameters of distinct names: surplus
positional arguments, and only they, are an arity mismatch; then the first named argument
that is not taken is refused, as unknown or as given twice; then the first required
parameter left empty is reported; and otherwise every parameter is bound to its positional
argument, else to its named one, else to its default. -/
theorem bind_follows_its_rules (function : String) (params : List Param)
    (positional : List Value) (named : List (String × Value))
    (hnames : (params.map Param.name).Nodup) :
    (bind function params positional named =
        .error ⟨.arityMismatch function params.length positional.length, []⟩ ↔
      params.length < positional.length) ∧
    (positional.length ≤ params.length →
      (∀ j name v, named[j]? = some (name, v) → AllTaken params positional (named.take j) →
        ¬ Takes params positional (named.take j) name →
        bind function params positional named =
          .error (badArgument function
            (if name ∈ params.map Param.name then s!"argument '{name}' given twice"
              else s!"unknown argument '{name}'"))) ∧
      (AllTaken params positional named →
        (∀ (i : Nat) (p : Param), params[i]? = some p → Missing positional named i p →
          (∀ (k : Nat) (q : Param), k < i → params[k]? = some q → ¬ Missing positional named k q) →
          bind function params positional named =
            .error (badArgument function s!"missing required argument '{p.name}'")) ∧
        ((∀ (i : Nat) (p : Param), params[i]? = some p → ¬ Missing positional named i p) →
          ∃ values, bind function params positional named = .ok values ∧
            values.length = params.length ∧
            ∀ (i : Nat) (p : Param), params[i]? = some p →
              values[i]? = positional[i]?.or ((named.lookup p.name).or p.default.value?)))) :=
  ⟨bind_eq_arityMismatch_iff function params positional named, fun h =>
    ⟨fun _ _ _ hj hbefore hrefused =>
      bind_of_refused function params positional named hnames h hj hbefore hrefused,
    fun hall =>
      ⟨fun _ _ hp hmissing hbefore =>
        bind_of_missing function params positional named hnames h hall hp hmissing hbefore,
      bind_of_complete function params positional named hnames h hall⟩⟩⟩

/-- `insert` takes its receiver by position and the other two by name, in either order. -/
theorem insert_arguments_bind_by_the_rules :
    ([Registry.self, Registry.req "index", Registry.req "value"].map Param.name).Nodup ∧
    ∃ values, bind "insert" [Registry.self, Registry.req "index", Registry.req "value"]
        [.list 0] [("value", .str "x"), ("index", .bool true)] = .ok values ∧
      values[0]? = some (.list 0) ∧ values[1]? = some (.bool true) ∧
      values[2]? = some (.str "x") := by
  have hnames : ([Registry.self, Registry.req "index", Registry.req "value"].map
      Param.name).Nodup := by decide
  have hall : Binding.AllTaken [Registry.self, Registry.req "index", Registry.req "value"]
      [.list 0] [("value", .str "x"), ("index", .bool true)] := by
    intro i name v h
    match i with
    | 0 => cases h; decide
    | 1 => cases h; decide
    | _ + 2 => cases h
  have hfull : ∀ (i : Nat) (p : Param),
      [Registry.self, Registry.req "index", Registry.req "value"][i]? = some p →
      ¬ Binding.Missing [.list 0] [("value", .str "x"), ("index", .bool true)] i p := by
    intro i p h
    match i with
    | 0 => cases h; decide
    | 1 => cases h; decide
    | 2 => cases h; decide
    | _ + 3 => cases h
  obtain ⟨values, hbind, -, hvalues⟩ :=
    ((bind_follows_its_rules "insert" _ _ _ hnames).2 (by decide)).2 hall |>.2 hfull
  exact ⟨hnames, values, hbind, hvalues 0 _ rfl, hvalues 1 _ rfl, hvalues 2 _ rfl⟩

end ScriptLib
