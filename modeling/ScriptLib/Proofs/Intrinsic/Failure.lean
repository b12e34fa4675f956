import ScriptLib.Proofs.World.Clean

/-!
# What each standard function can do

Every standard function makes its checks before its first change to the world: reading an
argument as a number, the range of an index, the cut of a text at a character boundary, a
list pushed into itself, a key already present, the limit of a shuffle, the count of a
replacement. Its checks keep the world and fail with no frame, and what follows them never
fails and leaves the seeded streams. So each function is tame, `rnd` apart, which never
fails but draws (`standard_tame`), and this one walk over the table gives the three
properties calls have:

* a call that fails leaves the world as it found it: every list and map, the seeded streams,
  the unseeded source and the printed lines (`failed_call_keeps_world`);
* the error of a function carries no frame (`standard_bare`, used for the frames of calls);
* no function but `rnd` touches the seeded streams (`standard_keepsSeeds`).

The function table, binding, and the frame that a call adds to an error keep the first.
-/

namespace ScriptLib

/-! ## The value layer fails with no frame -/

theorem Index.bare_checkRange (v lo hi : Double) (desc : String) :
    Bare (Index.checkRange v lo hi desc) := by
  unfold Index.checkRange
  split
  · exact bare_error _
  · exact bare_ok _

theorem Index.bare_range (start stop : Double) (step : Option Double) (limit : Nat) :
    Bare (Index.range start stop step limit) := by
  unfold Index.range
  extract_lets count afterStep
  have hcount : ∀ s, Bare (count s) := by
    intro s
    dsimp -zeta only [count]
    extract_lets span
    split
    · exact bare_ok _
    · split
      · exact bare_throw_bind _ _
      · exact bare_ok _
  have hstep : Bare (afterStep ()) := by
    dsimp -zeta only [afterStep]
    split
    · exact hcount _
    · split
      · exact bare_throw_bind _ _
      · exact hcount _
  split
  · exact bare_throw_bind _ _
  · exact hstep

theorem Intrinsic.bare_compileWith (function pattern options : String) :
    Bare (Intrinsic.compileWith function pattern options) := by
  unfold Intrinsic.compileWith
  extract_lets none afterEmpty
  have hoption : ∀ o c, Bare (Intrinsic.applyOption function o c) := by
    intro o c
    unfold Intrinsic.applyOption
    split <;> first | exact bare_ok _ | exact bare_error _
  have hafter : Bare (afterEmpty ()) := by
    dsimp -zeta only [afterEmpty]
    refine (Bare.foldlM hoption _ _).bind fun o => ?_
    split
    · exact bare_ok _
    · exact bare_error _
  split
  · exact bare_throw_bind _ _
  · exact hafter

theorem Intrinsic.bare_replaceMatches (text old new : String) (limit : Option Nat)
    (options : Option String) : Bare (Intrinsic.replaceMatches text old new limit options) := by
  unfold Intrinsic.replaceMatches
  split
  · exact (Intrinsic.bare_compileWith _ _ _).bind fun _ => bare_ok _
  · split
    · exact bare_error _
    · exact bare_ok _

namespace Intrinsic

open Act

/-! ## Reading arguments and cutting texts -/

theorem check_numberArg (args : List Value) (i : Nat) : Check (numberArg args i) := by
  unfold numberArg
  dsimp only
  split
  · exact check_pure _
  · exact check_fail _

theorem check_intArg (args : List Value) (i : Nat) : Check (intArg args i) :=
  (check_numberArg args i).bind fun _ => check_pure _

theorem check_exactNumber (v : Value) : Check (exactNumber v) := by
  unfold exactNumber
  split
  · exact check_pure _
  · exact check_fail _

theorem check_regexOptions (args : List Value) (i : Nat) : Check (regexOptions args i) := by
  unfold regexOptions
  split
  · exact check_pure _
  · exact (check_display _).bind fun _ => check_pure _

@[simp] theorem ofCut_ok {α : Type} (a : α) : ofCut (.ok a : Except Nat α) = pure a := rfl

/-- A cut of a text at byte offsets is a check: a cut that is no boundary is a panic. -/
theorem check_ofCut {α : Type} (r : Except Nat α) : Check (ofCut r) := by
  cases r with
  | ok a => exact check_pure a
  | error k => exact check_fail _

theorem check_checkRange (v lo hi : Double) (desc : String) :
    Check (ofResult (Index.checkRange v lo hi desc)) :=
  check_ofResult (Index.bare_checkRange v lo hi desc)

/-! ## Functions that only read -/

theorem check_str (args : List Value) : Check (str args) :=
  (check_display _).bind fun _ => check_pure _

theorem check_hash (args : List Value) : Check (hash args) := by
  unfold hash
  have hdepth : ∀ d,
      Check (heap >>= fun h => pure (Value.num (Number.ofInt (h.hash (argAt args 0) d)))) :=
    fun _ => check_heap.bind fun _ => check_pure _
  split
  · exact check_limits.bind fun _ => (check_pure _).bind hdepth
  · split
    · exact (check_pure _).bind hdepth
    · exact check_fail_bind _ _

theorem check_char (args : List Value) : Check (char args) := by
  unfold char
  dsimp only
  split
  · exact check_pure _
  · split
    · refine (check_pure _).bind fun _ => ?_
      split
      · exact check_pure _
      · split
        · exact check_pure _
        · split <;> exact check_pure _
    · exact check_fail_bind _ _

theorem check_code (args : List Value) : Check (code args) := by
  unfold code
  dsimp only
  split
  · exact check_fail_bind _ _
  · exact (check_display _).bind fun _ => check_pure _

theorem check_wait (args : List Value) : Check (wait args) := by
  unfold wait
  refine (check_numberArg _ _).bind fun _ => check_limits.bind fun _ =>
    (check_checkRange _ _ _ _).bind fun _ => ?_
  split
  · exact check_fail_bind _ _
  · exact check_pure _

theorem check_unary (f : Double → Double) (args : List Value) : Check (unary f args) := by
  unfold unary
  dsimp only
  split
  · exact check_pure _
  · split
    · exact check_pure _
    · exact check_fail _

theorem check_round (args : List Value) : Check (round args) := by
  unfold round
  dsimp only
  split
  · exact check_pure _
  · split
    · refine (check_pure _).bind fun _ => (check_numberArg _ _).bind fun _ =>
        (check_checkRange _ _ _ _).bind fun _ => ?_
      split <;> exact check_pure _
    · exact check_fail_bind _ _

theorem check_log (args : List Value) : Check (log args) := by
  unfold log
  dsimp only
  split
  · exact check_pure _
  · split
    · refine (check_pure _).bind fun _ => (check_numberArg _ _).bind fun _ => ?_
      split
      · exact check_fail_bind _ _
      · split <;> exact check_pure _
    · exact check_fail_bind _ _

theorem check_bitwise (args : List Value) : Check (bitwise args) := by
  unfold bitwise
  refine (check_display _).bind fun op => (check_numberArg _ _).bind fun a => ?_
  split
  · exact check_pure _
  · split
    · exact check_pure _
    · exact (check_numberArg _ _).bind fun _ => check_pure _

theorem check_hasIndex (args : List Value) : Check (hasIndex args) :=
  check_heap.bind fun _ => check_pure _

theorem check_indexOf (args : List Value) : Check (indexOf args) := by
  unfold indexOf
  refine check_heap.bind fun _ => ?_
  dsimp only
  split
  · exact check_pure _
  · split
    · exact check_pure _
    · exact check_pure _
  · split
    · exact check_pure _
    · exact (check_ofCut _).bind fun _ => check_pure _
  · exact check_pure _

theorem check_lastIndexOf (args : List Value) : Check (lastIndexOf args) := by
  unfold lastIndexOf
  refine check_heap.bind fun _ => ?_
  dsimp only
  split
  · split
    · exact check_pure _
    · exact check_pure _
  · split
    · exact check_pure _
    · exact check_pure _
  · split
    · exact check_pure _
    · split
      · exact check_pure _
      · exact (check_ofCut _).bind fun _ => check_pure _
  · exact check_pure _

theorem check_len (args : List Value) : Check (len args) :=
  check_heap.bind fun _ => check_pure _

theorem check_sum (args : List Value) : Check (sum args) :=
  check_heap.bind fun _ => check_pure _

theorem check_join (args : List Value) : Check (join args) := by
  unfold join
  split
  · dsimp only
    split
    · refine (check_pure _).bind fun _ => check_limits.bind fun _ => ?_
      split
      · exact check_fail_bind _ _
      · exact check_heap.bind fun _ => check_pure _
    · refine (check_display _).bind fun _ => check_limits.bind fun _ => ?_
      split
      · exact check_fail_bind _ _
      · exact check_heap.bind fun _ => check_pure _
  · exact check_fail _

theorem check_trim (args : List Value) : Check (trim args) := by
  unfold trim
  split
  · exact check_pure _
  · exact check_fail _

/-! ## Functions that never fail -/

theorem write_print (args : List Value) : Write (print args) := by
  refine (write_display _).bind fun _ => (write_modify ?_).bind fun _ => write_pure _
  intro w
  rfl

theorem write_indexes (args : List Value) : Write (indexes args) := by
  unfold indexes
  refine write_heap.bind fun _ => ?_
  split
  · exact write_newList _
  · exact write_newList _
  · exact write_newList _
  · exact write_pure _

theorem write_values (args : List Value) : Write (values args) := by
  unfold values
  refine write_heap.bind fun _ => ?_
  split
  · exact write_newList _
  · exact write_newList _
  · exact write_newList _
  · exact write_pure _

theorem write_pop (args : List Value) : Write (pop args) := by
  unfold pop
  refine write_heap.bind fun _ => ?_
  dsimp only
  split
  · split
    · exact write_update _ _
    · exact write_pure _
  · exact write_update _ _
  · exact write_pure _

theorem write_pull (args : List Value) : Write (pull args) := by
  unfold pull
  refine write_heap.bind fun _ => ?_
  dsimp only
  split
  · split
    · exact write_update _ _
    · exact write_pure _
  · exact write_update _ _
  · exact write_pure _

theorem write_sort (args : List Value) : Write (sort args) := by
  unfold sort
  split
  · exact write_heap.bind fun _ => write_update _ _
  · exact write_pure _

/-- `rnd` never fails; it draws from the seeded streams or from the unseeded source. -/
theorem total_rnd (args : List Value) : (rnd args).Total := by
  unfold rnd
  refine total_get.bind fun _ => ?_
  split
  · split
    exact (total_set _).bind fun _ => total_pure _
  · split
    exact (total_set _).bind fun _ => total_pure _

/-! ## Functions that check, then write -/

theorem tame_range (args : List Value) : Tame (range args) := by
  unfold range
  refine (check_exactNumber _).bind_tame fun _ => (check_exactNumber _).bind_tame fun _ => ?_
  extract_lets build
  have hbuild : ∀ step, Tame (build step) := fun _ =>
    check_limits.bind_tame fun _ =>
      (check_ofResult (Index.bare_range _ _ _ _)).bind_tame fun _ => (write_newList _).tame
  split
  · exact (check_pure _).bind_tame hbuild
  · exact ((check_exactNumber _).map _).bind_tame hbuild

theorem tame_slice (args : List Value) : Tame (slice args) := by
  unfold slice
  refine check_heap.bind_tame fun _ => ?_
  dsimp only
  split
  · exact (check_pure _).tame
  · split
    · exact (write_newList _).tame
    · exact ((check_ofCut _).bind fun _ => check_pure _).tame
    · exact (check_pure _).tame

theorem tame_insert (args : List Value) : Tame (insert args) := by
  unfold insert
  extract_lets recv value
  dsimp -zeta only [recv]
  split
  · refine (check_intArg _ _).bind_tame fun _ => check_heap.bind_tame fun _ =>
      (check_checkRange _ _ _ _).bind_tame fun _ => ?_
    extract_lets write
    have hwrite : Tame (write ()) := (write_update _ _).tame
    dsimp -zeta only [value]
    split
    · split
      · exact (check_fail_bind _ _).tame
      · exact hwrite
    · exact hwrite
  · exact ((check_intArg _ _).bind fun _ => (check_checkRange _ _ _ _).bind fun _ =>
      (check_ofCut _).bind fun _ => (check_display _).bind fun _ =>
        (check_ofCut _).bind fun _ => check_pure _).tame
  · exact (check_fail _).tame

theorem tame_remove (args : List Value) : Tame (remove args) := by
  unfold remove
  extract_lets key rest
  have hrest : Tame (rest ()) := by
    dsimp -zeta only [rest]
    split
    · exact check_heap.bind_tame fun _ => (write_update _ _).tame
    · refine (check_intArg _ _).bind_tame fun _ => check_heap.bind_tame fun _ => ?_
      dsimp only
      split
      · exact (write_update _ _).tame
      · exact (check_fail _).tame
    · exact ((check_display _).bind fun _ => check_pure _).tame
    · exact (check_fail _).tame
  split
  · exact (check_fail_bind _ _).tame
  · exact hrest

theorem tame_push (args : List Value) : Tame (push args) := by
  unfold push
  extract_lets recv value
  dsimp -zeta only [recv]
  split
  · extract_lets write
    have hwrite : Tame (write ()) := (write_update _ _).tame
    dsimp -zeta only [value]
    split
    · split
      · exact (check_fail_bind _ _).tame
      · exact hwrite
    · exact hwrite
  · extract_lets record afterNil
    have hrecord : Tame (record ()) := by
      dsimp -zeta only [record]
      refine check_heap.bind_tame fun _ => ?_
      extract_lets write
      have hwrite : Tame (write ()) := (write_update _ _).tame
      split
      · exact (check_fail_bind _ _).tame
      · exact hwrite
    have hself : Tame (afterNil ()) := by
      dsimp -zeta only [afterNil, value]
      split
      · split
        · exact (check_fail_bind _ _).tame
        · exact hrecord
      · exact hrecord
    split
    · exact (check_fail_bind _ _).tame
    · exact hself
  · exact (check_pure _).tame

theorem tame_reverse (args : List Value) : Tame (reverse args) := by
  unfold reverse
  split
  · exact (write_update _ _).tame
  · exact (check_fail _).tame

/-- A shuffle checks its limit before it draws, and draws from the unseeded source only. -/
theorem tame_shuffle (args : List Value) : Tame (shuffle args) := by
  unfold shuffle
  refine check_limits.bind_tame fun _ => check_heap.bind_tame fun _ => ?_
  extract_lets draw done
  have hdone : ∀ u, Write (done u) := fun _ => write_pure _
  split
  · extract_lets xs permute
    split
    · exact (check_fail_bind _ _).tame
    · refine (write_get_set ?_ done hdone).tame
      intro w
      rfl
  · extract_lets t permute
    split
    · exact (check_fail_bind _ _).tame
    · refine (write_get_set ?_ done hdone).tame
      intro w
      rfl
  · exact (check_pure _).tame

theorem tame_replace (args : List Value) : Tame (replace args) := by
  unfold replace
  extract_lets recv old new rewrite checkCount
  have hrewrite : ∀ limit, Tame (rewrite limit) := by
    intro limit
    dsimp -zeta only [rewrite, recv]
    refine check_heap.bind_tame fun _ => ?_
    split
    · exact (write_update _ _).tame
    · exact (write_update _ _).tame
    · extract_lets newText readText
      have hread : Check (readText ()) :=
        (check_regexOptions _ _).bind fun _ =>
          (check_ofResult (bare_replaceMatches _ _ _ _ _)).bind fun _ => check_pure _
      split
      · exact (check_fail_bind _ _).tame
      · exact hread.tame
    · exact (check_fail _).tame
  have hcount : ∀ n, Tame (checkCount n) := fun _ =>
    (check_checkRange _ _ _ _).bind_tame fun _ => (check_pure _).bind_tame hrewrite
  split
  · exact (check_pure _).bind_tame hrewrite
  · split
    · exact (check_pure _).bind_tame hcount
    · exact (check_fail_bind _ _).tame

theorem tame_split (args : List Value) : Tame (split args) := by
  unfold split
  extract_lets build afterText
  have hbuild : ∀ parts, Tame (build parts) := fun _ => (write_newList _).tame
  have hafter : ∀ text, Tame (afterText text) := by
    intro text
    dsimp -zeta only [afterText]
    extract_lets afterDelimiter
    have hparts : ∀ delimiter, Tame (afterDelimiter delimiter) := by
      intro delimiter
      dsimp -zeta only [afterDelimiter]
      refine (check_regexOptions _ _).bind_tame fun _ => ?_
      split
      · exact (check_ofResult (bare_compileWith _ _ _)).bind_tame fun _ =>
          (check_pure _).bind_tame hbuild
      · split
        · exact (check_pure _).bind_tame hbuild
        · exact (check_pure _).bind_tame hbuild
    split
    · exact (check_fail_bind _ _).tame
    · exact (check_display _).bind_tame hparts
  split
  · exact (check_pure _).bind_tame hafter
  · exact (check_fail_bind _ _).tame

end Intrinsic

/-! ## The function table -/

namespace Registry

open Act Intrinsic

/-- What each standard function can do, whatever its arguments: `rnd` never fails, and every
other function is tame. -/
theorem standard_tame : ∀ f ∈ standard,
    (∀ args, Tame (f.run args)) ∨ (f.name = "rnd" ∧ ∀ args, (f.run args).Total) := by
  simp only [standard, sync, List.forall_mem_cons, List.not_mem_nil,
    false_implies, implies_true, and_true]
  exact ⟨.inl fun a => (write_print a).tame, .inl fun a => (check_wait a).tame,
    .inl fun _ => (check_pure _).tame, .inl fun a => (check_char a).tame,
    .inl fun a => (check_code a).tame, .inl fun a => (check_str a).tame,
    .inl fun _ => (check_pure _).tame, .inl fun a => (check_hash a).tame, .inl tame_range,
    .inr ⟨by trivial, total_rnd⟩,
    .inl fun a => (check_unary _ a).tame, .inl fun a => (check_unary _ a).tame,
    .inl fun a => (check_unary _ a).tame, .inl fun a => (check_unary _ a).tame,
    .inl fun a => (check_unary _ a).tame, .inl fun a => (check_unary _ a).tame,
    .inl fun a => (check_unary _ a).tame, .inl fun a => (check_unary _ a).tame,
    .inl fun a => (check_unary _ a).tame, .inl fun a => (check_unary _ a).tame,
    .inl fun a => (check_unary _ a).tame, .inl fun a => (check_log a).tame,
    .inl fun a => (check_round a).tame, .inl fun _ => (check_pure _).tame,
    .inl fun a => (check_bitwise a).tame, .inl fun a => (check_hasIndex a).tame,
    .inl fun a => (check_indexOf a).tame, .inl fun a => (check_lastIndexOf a).tame,
    .inl fun a => (write_indexes a).tame, .inl fun a => (write_values a).tame,
    .inl fun a => (check_len a).tame, .inl tame_slice, .inl tame_insert,
    .inl fun a => (write_sort a).tame, .inl fun a => (check_sum a).tame, .inl tame_shuffle,
    .inl fun a => (write_pop a).tame, .inl fun a => (write_pull a).tame, .inl tame_push,
    .inl tame_remove, .inl tame_reverse, .inl fun a => (check_join a).tame, .inl tame_replace,
    .inl fun _ => (check_pure _).tame, .inl fun _ => (check_pure _).tame, .inl tame_split,
    .inl fun a => (check_trim a).tame, .inl fun _ => (check_pure _).tame⟩

/-- Every standard function fails cleanly, whatever its arguments. -/
theorem standard_clean (f : Builtin) (hf : f ∈ standard) (args : List Value) :
    (f.run args).Clean := by
  rcases standard_tame f hf with htame | ⟨-, htotal⟩
  · exact (htame args).clean
  · exact (htotal args).clean

/-- Every standard function fails with no frame, whatever its arguments. -/
theorem standard_bare (f : Builtin) (hf : f ∈ standard) (args : List Value) :
    (f.run args).Bare := by
  rcases standard_tame f hf with htame | ⟨-, htotal⟩
  · exact (htame args).bare
  · exact (htotal args).bare

/-- Every standard function but `rnd` leaves the seeded streams as they are, whatever its
arguments. -/
theorem standard_keepsSeeds (f : Builtin) (hf : f ∈ standard) (hn : f.name ≠ "rnd")
    (args : List Value) : (f.run args).KeepsSeeds := by
  rcases standard_tame f hf with htame | ⟨hrnd, -⟩
  · exact (htame args).keepsSeeds
  · exact absurd hrnd hn

theorem mem_standard_of_lookup {name : String} {f : Builtin} (h : lookup name = some f) :
    f ∈ standard :=
  List.mem_of_find?_eq_some h

/-- Binding fails before the function runs. -/
theorem clean_invoke {f : Builtin} (hf : ∀ args, (f.run args).Clean) (positional : List Value)
    (named : List (String × Value)) : (invoke f positional named).Clean :=
  (keeps_ofResult _).bind_clean hf

/-- A call's frame goes on its error only: the answer and the world are those its body
leaves. -/
theorem run_framed {α : Type} (a : Act α) (frame : String) (w : World) :
    (framed frame a).run.run w = match a.run.run w with
      | (.ok x, w₁) => (.ok x, w₁)
      | (.error e, w₁) => (.error (e.pushFrame frame), w₁) := by
  rcases hrun : a.run.run w with ⟨_ | x, w₁⟩
  · rw [framed, run_tryCatch_error hrun]
    rfl
  · rw [framed, run_tryCatch_ok hrun]

/-- Adding a frame to an error changes nothing else. -/
theorem clean_framed {α : Type} {a : Act α} (ha : a.Clean) (frame : String) :
    (framed frame a).Clean := by
  intro w e w' hr
  rw [run_framed] at hr
  rcases hrun : a.run.run w with ⟨_ | x, w₁⟩ <;> simp only [hrun] at hr
  · cases hr
    exact ha w _ _ hrun
  · cases hr

section Entries

variable {P : Act Value → Prop} {name : String} {positional : List Value}
  {named : List (String × Value)}

/-- The body of a call that must not suspend is a failure, or the function its name finds
run on the arguments. -/
theorem callSync_body (hfail : ∀ c, P (fail c))
    (hfound : ∀ f, lookup name = some f → P (invoke f positional named)) :
    ∃ body, callSync name positional named = framed name body ∧ P body := by
  refine ⟨_, rfl, ?_⟩
  split
  · exact hfail _
  · rename_i f hf
    split
    · exact hfail _
    · exact hfound f hf

theorem call_body (hfail : ∀ c, P (fail c))
    (hfound : ∀ f, lookup name = some f → P (invoke f positional named)) :
    ∃ body, call name positional named = framed name body ∧ P body := by
  refine ⟨_, rfl, ?_⟩
  split
  · exact hfail _
  · exact hfound _ ‹_›

/-- The body of a method call is a failure, or the function its name finds, the name being
one of the receiver's methods, run on the receiver and the arguments. -/
theorem callMethod_body (receiver : Value) (hfail : ∀ c, P (fail c))
    (hfound : ∀ f ms, methodsOf receiver = some ms → name ∈ ms → lookup name = some f →
      P (invoke f (receiver :: positional) named)) :
    ∃ body, callMethod receiver name positional named = framed name body ∧ P body := by
  refine ⟨_, rfl, ?_⟩
  dsimp only
  split
  · exact hfail _
  · rename_i f hf
    obtain ⟨ms, hms, hlookup⟩ := Option.bind_eq_some_iff.1 hf
    split at hlookup
    · rename_i hn
      split
      · exact hfail _
      · exact hfound f ms hms (List.elem_iff.1 hn) hlookup
    · cases hlookup

end Entries

theorem clean_callSync (name : String) (positional : List Value)
    (named : List (String × Value)) : (callSync name positional named).Clean := by
  obtain ⟨body, hcall, hbody⟩ := callSync_body (P := Act.Clean) (fun c => (keeps_fail c).clean)
    fun f hf => clean_invoke (standard_clean f (mem_standard_of_lookup hf)) positional named
  rw [hcall]
  exact clean_framed hbody name

theorem clean_call (name : String) (positional : List Value) (named : List (String × Value)) :
    (call name positional named).Clean := by
  obtain ⟨body, hcall, hbody⟩ := call_body (P := Act.Clean) (fun c => (keeps_fail c).clean)
    fun f hf => clean_invoke (standard_clean f (mem_standard_of_lookup hf)) positional named
  rw [hcall]
  exact clean_framed hbody name

theorem clean_callMethod (receiver : Value) (name : String) (positional : List Value)
    (named : List (String × Value)) : (callMethod receiver name positional named).Clean := by
  obtain ⟨body, hcall, hbody⟩ := callMethod_body (P := Act.Clean) receiver
    (fun c => (keeps_fail c).clean) fun f _ _ _ hf =>
      clean_invoke (standard_clean f (mem_standard_of_lookup hf)) _ named
  rw [hcall]
  exact clean_framed hbody name

/-- A call of a standard function that fails, whether made so that it must not suspend, so
that it may, or as a method of a receiver, leaves the world as it was before the call: every
list and map with its contents and entry order, the seeded streams, the unseeded source
and the printed lines. -/
theorem failed_call_keeps_world (name : String) (receiver : Value) (positional : List Value)
    (named : List (String × Value)) (w w' : World) (e : Error) :
    ((callSync name positional named).run.run w = (.error e, w') → w' = w) ∧
    ((call name positional named).run.run w = (.error e, w') → w' = w) ∧
    ((callMethod receiver name positional named).run.run w = (.error e, w') → w' = w) :=
  ⟨clean_callSync name positional named w e w', clean_call name positional named w e w',
    clean_callMethod receiver name positional named w e w'⟩

/-- Pushing a list into itself fails, and leaves the world as it was. -/
theorem self_push_keeps_world :
    let w : World := { heap := { lists := #[#[.str "a"]] } }
    let r := (callSync "push" [.list 0, .list 0] []).run.run w
    r.1 = .error ⟨.invalidArgument "push" "cannot push a list into itself", ["push"]⟩ ∧ r.2 = w := by
  intro w r
  have hfail : r.1 = .error ⟨.invalidArgument "push" "cannot push a list into itself", ["push"]⟩ :=
    rfl
  exact ⟨hfail, (failed_call_keeps_world "push" .nil [.list 0, .list 0] [] w r.2 _).1
    (Prod.ext hfail rfl)⟩

end Registry

end ScriptLib
