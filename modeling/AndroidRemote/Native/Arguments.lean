import AndroidRemote.Native.CommandLine

/-! The option loop of `main` on any argument vector: where it ends, what it takes for a value,
and what it copies. -/

namespace AndroidRemote.Native

open AndroidRemote.Library

def optionChar : List Char → Option Char
  | '-' :: c :: _ => some c
  | _ => none

/-- The body of `while (i < argc)`, with the index after it. -/
def optionStep (argv : List (List Char)) (o : Options) (i : ℕ) : Except Stop (Options × ℕ) :=
  match argv[i]?.bind optionChar with
  | some c =>
    if c = 'h' then .error .help
    else if takesValue c then
      match argv[i + 1]? with
      | none => .error .noValue
      | some value => (o.set c value).map (fun o => (o, i + 2))
    else .ok (o, i + 1)
  | none => .ok (o, i + 1)

def optionRun (argv : List (List Char)) : ℕ → Options → ℕ → Option (Except Stop Options)
  | 0, o, i => if i < argv.length then none else some (.ok o)
  | fuel + 1, o, i =>
    if i < argv.length then
      match optionStep argv o i with
      | .error stop => some (.error stop)
      | .ok (o, i) => optionRun argv fuel o i
    else some (.ok o)

def valued (a : List Char) : Bool := (optionChar a).any takesValue

/-- The entry behind `pre` is read as an option: an even number of entries that look like options
with a value stand right before it. -/
def AtOption (pre : List (List Char)) : Prop := (pre.reverse.takeWhile valued).length % 2 = 0

def HelpFree (pre : List (List Char)) : Prop :=
  ∀ before a after, pre = before ++ a :: after → AtOption before → optionChar a ≠ some 'h'

def Supplied (a : List Char) (post : List (List Char)) : Prop :=
  ∀ c, optionChar a = some c → takesValue c = true →
    ∃ value rest, post = value :: rest ∧ ((c = 'p' ∨ c = 'f') → value.length < 256)

def WellSupplied (args : List (List Char)) : Prop :=
  ∀ pre a post, args = pre ++ a :: post → AtOption pre → HelpFree pre → Supplied a post

def Parses (argv : List (List Char)) : Prop :=
  ∃ result, optionRun argv argv.length .initial 1 = some result ∧ ∀ stop, result = .error stop → stop = .help

lemma optionChar_eq_some {a : List Char} {c : Char} (h : optionChar a = some c) : ∃ cs, a = '-' :: c :: cs := by
  rcases a with _ | ⟨d, _ | ⟨e, cs⟩⟩
  · cases h
  · simp [optionChar] at h
  · rw [optionChar.eq_def] at h
    split at h
    · rename_i heq
      cases h
      exact ⟨_, heq⟩
    · cases h

lemma optionLoop_some (o : Options) {a : List Char} {c : Char} (ha : optionChar a = some c)
    (args : List (List Char)) : optionLoop o (a :: args) =
      if c = 'h' then .error .help
      else if takesValue c then
        match args with
        | [] => .error .noValue
        | value :: args => o.set c value >>= fun o => optionLoop o args
      else optionLoop o args := by
  obtain ⟨cs, rfl⟩ := optionChar_eq_some ha
  cases args <;> rfl

lemma optionLoop_none (o : Options) {a : List Char} (ha : optionChar a = none) (args : List (List Char)) :
    optionLoop o (a :: args) = optionLoop o args := by
  rcases a with _ | ⟨d, _ | ⟨c, cs⟩⟩
  · rfl
  · rw [optionLoop]
    simp
  · rw [optionLoop]
    intro c' cs' h
    rw [h] at ha
    cases ha

lemma optionLoop_step (argv : List (List Char)) (o : Options) {i : ℕ} (hi : i < argv.length) :
    optionLoop o (argv.drop i) = optionStep argv o i >>= fun p => optionLoop p.1 (argv.drop p.2) := by
  rw [List.drop_eq_getElem_cons hi, optionStep, List.getElem?_eq_getElem hi, Option.bind_some]
  cases ha : optionChar argv[i] with
  | none => exact optionLoop_none o ha _
  | some c =>
    rw [optionLoop_some o ha]
    by_cases hhelp : c = 'h'
    · simp [hhelp]
    · by_cases hvalue : takesValue c = true
      · by_cases hnext : i + 1 < argv.length
        · simp only [hhelp, hvalue, if_false, if_true, List.drop_eq_getElem_cons hnext,
            List.getElem?_eq_getElem hnext]
          cases o.set c argv[i + 1] <;> rfl
        · simp [hhelp, hvalue, List.drop_eq_nil_of_le (show argv.length ≤ i + 1 by omega),
            List.getElem?_eq_none (show argv.length ≤ i + 1 by omega)]
      · simp [hhelp, hvalue]

lemma optionStep_advances {argv : List (List Char)} {o : Options} {i : ℕ} {p : Options × ℕ}
    (h : optionStep argv o i = .ok p) : i < p.2 := by
  rw [optionStep] at h
  split at h
  · split_ifs at h
    · split at h
      · cases h
      · rename_i c _ _ _ _ value _
        cases hset : o.set c value with
        | error stop =>
          rw [hset] at h
          cases h
        | ok o' =>
          rw [hset] at h
          cases h
          exact Nat.lt_add_of_pos_right (by decide)
    · cases h
      exact Nat.lt_succ_self i
  · cases h
    exact Nat.lt_succ_self i

/-- The loop comes to its end, and over the list it is `optionLoop`. -/
theorem optionRun_eq (argv : List (List Char)) (fuel : ℕ) (o : Options) (i : ℕ)
    (h : argv.length ≤ fuel + i) : optionRun argv fuel o i = some (optionLoop o (argv.drop i)) := by
  induction fuel generalizing o i with
  | zero =>
    rw [optionRun, if_neg (by omega), List.drop_eq_nil_of_le (by omega)]
    rfl
  | succ fuel ih =>
    rw [optionRun]
    by_cases hi : i < argv.length
    · rw [if_pos hi, optionLoop_step argv o hi]
      cases hstep : optionStep argv o i with
      | error stop => rfl
      | ok p =>
        have hp := optionStep_advances hstep
        rw [ok_bind]
        exact ih p.1 p.2 (by omega)
    · rw [if_neg hi, List.drop_eq_nil_of_le (by omega)]
      rfl

lemma atOption_nil : AtOption [] := rfl

lemma atOption_plain {a : List Char} (ha : valued a = false) (pre : List (List Char)) :
    AtOption (a :: pre) ↔ AtOption pre := by
  rw [AtOption, AtOption, List.reverse_cons, List.takeWhile_append]
  split_ifs with hall
  · simp [ha, hall]
  · rfl

lemma atOption_value {a : List Char} (ha : valued a = true) (value : List Char) (pre : List (List Char)) :
    AtOption (a :: value :: pre) ↔ AtOption pre := by
  have hrev : (a :: value :: pre).reverse = pre.reverse ++ [value, a] := by simp
  rw [AtOption, AtOption, hrev, List.takeWhile_append]
  split_ifs with hall
  · cases hv : valued value <;> simp [hv, ha, hall]
  · rfl

lemma not_atOption_single {a : List Char} (ha : valued a = true) : ¬ AtOption [a] := by
  simp [AtOption, ha]

structure Block (a : List Char) (rest : List (List Char)) : Prop where
  help : optionChar a ≠ some 'h'
  skip : ∀ pre, AtOption (a :: rest ++ pre) ↔ AtOption pre
  inside : ∀ before x after, rest = before ++ x :: after → ¬ AtOption (a :: before)

lemma block_plain {a : List Char} (ha : valued a = false) (hh : optionChar a ≠ some 'h') : Block a [] := by
  refine ⟨hh, atOption_plain ha, ?_⟩
  intro before x after h
  cases before <;> cases h

lemma block_value {a : List Char} (ha : valued a = true) (value : List Char) : Block a [value] := by
  refine ⟨?_, atOption_value ha value, ?_⟩
  · intro hh
    rw [valued, hh] at ha
    exact absurd ha (by decide)
  · intro before x after h
    rcases before with _ | ⟨y, before⟩
    · exact not_atOption_single ha
    · cases before <;> cases (List.cons.inj h).2

namespace Block

variable {a : List Char} {rest : List (List Char)}

lemma options (hb : Block a rest) {args pre post : List (List Char)} {x : List Char}
    (h : a :: rest ++ args = pre ++ x :: post) (hp : AtOption pre) :
    (pre = [] ∧ x = a ∧ post = rest ++ args) ∨
    ∃ later, pre = a :: rest ++ later ∧ args = later ++ x :: post := by
  rcases pre with _ | ⟨y, pre⟩
  · cases h
    exact Or.inl ⟨rfl, rfl, rfl⟩
  · obtain ⟨rfl, htail⟩ := List.cons.inj h
    rcases List.append_eq_append_iff.mp htail with ⟨later, rfl, hargs⟩ | ⟨inner, hrest, hargs⟩
    · exact Or.inr ⟨later, rfl, hargs⟩
    · rcases inner with _ | ⟨z, inner⟩
      · rw [List.append_nil] at hrest
        exact Or.inr ⟨[], by simp [hrest], hargs.symm⟩
      · exact absurd hp (hb.inside pre z inner hrest)

lemma helpFree (hb : Block a rest) (pre : List (List Char)) : HelpFree (a :: rest ++ pre) ↔ HelpFree pre := by
  constructor
  · intro h before x after hpre hat
    exact h (a :: rest ++ before) x after (by simp [hpre]) ((hb.skip before).mpr hat)
  · intro h before x after hpre hat
    rcases hb.options hpre hat with ⟨-, rfl, -⟩ | ⟨later, rfl, hlater⟩
    · exact hb.help
    · exact h later x after hlater ((hb.skip later).mp hat)

lemma wellSupplied (hb : Block a rest) (args : List (List Char)) :
    WellSupplied (a :: rest ++ args) ↔ Supplied a (rest ++ args) ∧ WellSupplied args := by
  constructor
  · intro h
    refine ⟨h [] a (rest ++ args) rfl atOption_nil ?_, ?_⟩
    · intro before x after hnil
      cases before <;> cases hnil
    · intro pre x post hargs hat hfree
      exact h (a :: rest ++ pre) x post (by simp [hargs]) ((hb.skip pre).mpr hat) ((hb.helpFree pre).mpr hfree)
  · rintro ⟨hfirst, hlater⟩ pre x post hargs hat hfree
    rcases hb.options hargs hat with ⟨-, rfl, rfl⟩ | ⟨later, rfl, hrest⟩
    · exact hfirst
    · exact hlater later x post hrest ((hb.skip later).mp hat) ((hb.helpFree later).mp hfree)

end Block

lemma wellSupplied_help {a : List Char} (ha : optionChar a = some 'h') (args : List (List Char)) :
    WellSupplied (a :: args) := by
  intro pre x post hargs hat hfree
  rcases pre with _ | ⟨y, pre⟩
  · cases hargs
    intro c hc hvalue
    rw [ha] at hc
    cases hc
    exact absurd hvalue (by decide)
  · obtain ⟨rfl, -⟩ := List.cons.inj hargs
    exact absurd ha (hfree [] a pre rfl atOption_nil)

lemma supplied_plain {a : List Char} (ha : valued a = false) (args : List (List Char)) : Supplied a args := by
  intro c hc hvalue
  simp [valued, hc, hvalue] at ha

lemma set_result (o : Options) (c : Char) (value : List Char) :
    if (c = 'p' ∨ c = 'f') → value.length < 256 then ∃ o', o.set c value = .ok o'
    else o.set c value = .error .overflow := by
  by_cases hshort : value.length < 256
  · have hcopy : strcpy256 value = .ok value := if_pos hshort
    rw [if_pos (fun _ => hshort), Options.set, hcopy]
    split_ifs <;> exact ⟨_, rfl⟩
  · have hcopy : strcpy256 value = .error .overflow := if_neg hshort
    rw [Options.set, hcopy]
    by_cases hp : c = 'p'
    · simp [hp, hshort, Except.map]
    · by_cases hf : c = 'f'
      · simp [hf, hshort, Except.map]
      · simp only [hp, hf, or_self, false_imp_iff, if_true, if_false]
        split_ifs <;> exact ⟨_, rfl⟩

lemma supplied_cons {a : List Char} {c : Char} (ha : optionChar a = some c) (hc : takesValue c = true)
    (value : List Char) (args : List (List Char)) :
    Supplied a (value :: args) ↔ ((c = 'p' ∨ c = 'f') → value.length < 256) := by
  constructor
  · intro h
    obtain ⟨v, rest, hcons, hv⟩ := h c ha hc
    cases hcons
    exact hv
  · intro h d hd _
    rw [ha] at hd
    cases hd
    exact ⟨value, args, rfl, h⟩

lemma last_not_supplied {a : List Char} {c : Char} (ha : optionChar a = some c) (hc : takesValue c = true) :
    ¬ WellSupplied [a] := by
  intro h
  have hfree : HelpFree [] := by
    intro before x after hnil
    cases before <;> cases hnil
  obtain ⟨value, rest, hnil, -⟩ := h [] a [] rfl atOption_nil hfree c ha hc
  cases hnil

lemma value_help_iff (o : Options) (c : Char) (value : List Char) {args : List (List Char)} {W : Prop}
    (hargs : ∀ o, (∀ stop, optionLoop o args = .error stop → stop = .help) ↔ W) :
    (∀ stop, (o.set c value >>= fun o => optionLoop o args) = .error stop → stop = .help) ↔
      ((c = 'p' ∨ c = 'f') → value.length < 256) ∧ W := by
  have hset := set_result o c value
  by_cases hlen : (c = 'p' ∨ c = 'f') → value.length < 256
  · rw [if_pos hlen] at hset
    obtain ⟨o', ho'⟩ := hset
    rw [and_iff_right hlen, ho', ok_bind]
    exact hargs o'
  · rw [if_neg hlen] at hset
    refine iff_of_false ?_ (fun h => hlen h.1)
    intro h
    rw [hset, error_bind] at h
    cases h .overflow rfl

lemma optionLoop_help_iff (o : Options) (args : List (List Char)) :
    (∀ stop, optionLoop o args = .error stop → stop = .help) ↔ WellSupplied args := by
  induction args using (measure List.length).wf.induction generalizing o with
  | h args ih =>
    rcases args with _ | ⟨a, args⟩
    · refine iff_of_true (fun stop hstop => by cases hstop) ?_
      intro pre x post hnil
      cases pre <;> cases hnil
    · have hplain : ∀ o, valued a = false → optionChar a ≠ some 'h' →
          ((∀ stop, optionLoop o args = .error stop → stop = .help) ↔ WellSupplied (a :: args)) := by
        intro o ha hh
        have hblock : WellSupplied (a :: args) ↔ Supplied a args ∧ WellSupplied args :=
          (block_plain ha hh).wellSupplied args
        rw [hblock, and_iff_right (supplied_plain ha args)]
        exact ih args (Nat.lt_succ_self _) o
      cases ha : optionChar a with
      | none =>
        rw [optionLoop_none o ha]
        exact hplain o (by simp [valued, ha]) (by simp [ha])
      | some c =>
        rw [optionLoop_some o ha]
        by_cases hhelp : c = 'h'
        · subst c
          simp [wellSupplied_help ha args]
        · by_cases hvalue : takesValue c = true
          · rw [if_neg hhelp, if_pos hvalue]
            rcases args with _ | ⟨value, args⟩
            · exact iff_of_false (fun h => by cases h .noValue rfl) (last_not_supplied ha hvalue)
            · have hblock : WellSupplied (a :: value :: args) ↔ Supplied a (value :: args) ∧ WellSupplied args :=
                (block_value (by simp [valued, ha, hvalue]) value).wellSupplied args
              have hshort : args.length < (a :: value :: args).length := by
                simp only [List.length_cons]
                omega
              rw [hblock, supplied_cons ha hvalue]
              exact value_help_iff o c value (ih args hshort)
          · simp only [hhelp, hvalue, if_false]
            exact hplain o (by simp [valued, ha, hvalue]) (by simp [ha, hhelp])

/-- The loop always ends; it stays within `argv` and its buffers when every option that it reads
before a help is supplied. -/
theorem parses_iff_supplied (argv : List (List Char)) : Parses argv ↔ WellSupplied (argv.drop 1) := by
  rw [Parses, optionRun_eq argv argv.length .initial 1 (by omega), ← optionLoop_help_iff .initial]
  simp

theorem last_option_reads_beyond : ¬ ∀ argv, Parses argv := by
  intro h
  obtain ⟨result, hresult, hhelp⟩ := h ["androidvncserver".toList, "-p".toList]
  have hrun : optionRun ["androidvncserver".toList, "-p".toList] 2 .initial 1 = some (.error .noValue) := by decide
  cases hresult.symm.trans hrun
  cases hhelp .noValue rfl

end AndroidRemote.Native
