import Understudy.Proofs.Reporting
import Understudy.Proofs.Text.Quoted
import Understudy.Proofs.Value.Plain

/-!
# The text of a value tells which value it is

Without floating-point numbers, values have the same text exactly if they are equal. The text of a
value can be cut off whatever follows it, provided that this does not begin like a number
(`Value.cutsOff`): its first character tells the kind of the value (`Value.exists_head`), and each
kind tells where its texts end. Texts of integers end with their digits, quoted texts at the quote,
and a list at its bracket, its items being cut off one after another
(`commaSeparated_append_inj`).

As equal texts mean equal values, the report on a call never finds the texts of a value and of the
literal that rejects it identical (`Value.text_identifies`).
-/

namespace Understudy

open Text

/-! ## Texts that can be cut off -/

/-- Whether a character can stand in the text of an integer. -/
def inNumeral (c : Char) : Bool := c.isDigit || c = '-'

/-- Whatever follows them without beginning like a number, the texts of two things tell their keys,
and where they end. -/
def CutsOff {α β : Type} (text : α → List Char) (key : α → β) (x y : α) : Prop :=
  ∀ r r', EndsRun inNumeral r → EndsRun inNumeral r' → text x ++ r = text y ++ r' →
    key x = key y ∧ r = r'

theorem toList_toString_negSucc (k : Nat) :
    (toString (Int.negSucc k)).toList = '-' :: (Nat.repr (k + 1)).toList := by
  show ("-" ++ Nat.repr (k + 1)).toList = _
  rw [String.toList_append]
  rfl

/-- The text of a number tells which number it is. -/
theorem repr_injective {k l : Nat} (h : (Nat.repr k).toList = (Nat.repr l).toList) : k = l := by
  rw [Nat.repr_eq_ofList_toDigits, Nat.repr_eq_ofList_toDigits, String.toList_ofList,
    String.toList_ofList] at h
  have hread := congrArg (Nat.ofDigitChars 10 · 0) h
  simpa [Nat.ofDigitChars_toDigits] using hread

/-- There is no sign in it. -/
theorem isDigit_of_mem_repr {k : Nat} {c : Char} (hc : c ∈ (Nat.repr k).toList) :
    c.isDigit = true := by
  rw [Nat.repr_eq_ofList_toDigits, String.toList_ofList] at hc
  exact Nat.isDigit_of_mem_toDigits (by decide) (by decide) hc

/-- A number has no text that begins with a sign. -/
theorem repr_ne_sign {k : Nat} {cs : List Char} : (Nat.repr k).toList ≠ '-' :: cs := by
  intro h
  have hsign : ('-').isDigit = true := isDigit_of_mem_repr (k := k) (h ▸ List.mem_cons_self ..)
  cases hsign

/-- The text of an integer tells which integer it is. -/
theorem toString_injective {m n : Int} (h : (toString m).toList = (toString n).toList) : m = n := by
  cases m with
  | ofNat k =>
    cases n with
    | ofNat l => exact congrArg Int.ofNat (repr_injective h)
    | negSucc l =>
      rw [toList_toString_negSucc] at h
      exact absurd h repr_ne_sign
  | negSucc k =>
    cases n with
    | ofNat l =>
      rw [toList_toString_negSucc] at h
      exact absurd h.symm repr_ne_sign
    | negSucc l =>
      rw [toList_toString_negSucc, toList_toString_negSucc] at h
      exact congrArg Int.negSucc (Nat.succ.inj (repr_injective (List.cons.inj h).2))

/-- All characters of an integer's text are digits or a sign. -/
theorem inNumeral_of_mem {n : Int} {c : Char} (hc : c ∈ (toString n).toList) :
    inNumeral c = true := by
  have hdigits {k : Nat} {d : Char} (hd : d ∈ (Nat.repr k).toList) : inNumeral d = true := by
    rw [inNumeral, isDigit_of_mem_repr hd]
    rfl
  cases n with
  | ofNat k => exact hdigits hc
  | negSucc k =>
    rw [toList_toString_negSucc] at hc
    rcases List.mem_cons.mp hc with rfl | hin
    · rfl
    · exact hdigits hin

/-- There is at least one of them. -/
theorem toList_toString_ne_nil (n : Int) : (toString n).toList ≠ [] := by
  cases n with
  | ofNat k =>
    show (Nat.repr k).toList ≠ []
    rw [Nat.repr_eq_ofList_toDigits, String.toList_ofList]
    exact Nat.toDigits_ne_nil
  | negSucc k =>
    rw [toList_toString_negSucc]
    exact List.cons_ne_nil _ _

/-- The text of an integer ends with its last digit. -/
theorem cutsOff_int (m n : Int) : CutsOff (fun n : Int => (toString n).toList) id m n := by
  intro r r' hr hr' h
  obtain ⟨htext, hrest⟩ := append_inj_of_endsRun (fun _ => inNumeral_of_mem)
    (fun _ => inNumeral_of_mem) hr hr' h
  exact ⟨toString_injective htext, hrest⟩

theorem cutsOff_byte (a b : UInt8) :
    CutsOff (fun b : UInt8 => (toString b.toNat).toList) id a b := by
  intro r r' hr hr' h
  obtain ⟨hn, hrest⟩ := cutsOff_int a.toNat b.toNat r r' hr hr' h
  exact ⟨UInt8.toNat_inj.mp (Int.ofNat_inj.mp hn), hrest⟩

/-! ## Items between brackets -/

section Items

variable {α β : Type} {text : α → List Char} {key : α → β} {x : α} {xs ys : List α}

/-- A text followed by a comma and a blank for each further text. -/
theorem commaSeparated_cons (x : List Char) (xs : List (List Char)) :
    commaSeparated (x :: xs) = x ++ xs.flatMap fun y => ',' :: ' ' :: y := by
  induction xs generalizing x with
  | nil => simp [commaSeparated]
  | cons y ys ih => rw [commaSeparated, ih, List.flatMap_cons, List.cons_append, List.cons_append]

/-- What follows an item: further items, the closing bracket, and the rest. -/
def remaining (text : α → List Char) (xs : List α) (r : List Char) : List Char :=
  xs.flatMap (fun x => ',' :: ' ' :: text x) ++ ']' :: r

theorem remaining_cons (x : α) (xs : List α) (r : List Char) :
    remaining text (x :: xs) r = ',' :: ' ' :: (text x ++ remaining text xs r) := by
  simp [remaining]

theorem endsRun_remaining (xs : List α) (r : List Char) :
    EndsRun inNumeral (remaining text xs r) := by
  cases xs with
  | nil => exact endsRun_cons (by decide) r
  | cons x xs =>
    rw [remaining_cons]
    exact endsRun_cons (by decide) _

theorem remaining_inj : ∀ {xs ys : List α} {r r' : List Char},
    (∀ x ∈ xs, ∀ y ∈ ys, CutsOff text key x y) → remaining text xs r = remaining text ys r' →
      xs.map key = ys.map key ∧ r = r'
  | [], [], _, _, _, h => ⟨rfl, (List.cons.inj h).2⟩
  | [], y :: ys, _, _, _, h => by
    rw [remaining_cons] at h
    exact absurd (List.cons.inj h).1 (by decide)
  | x :: xs, [], _, _, _, h => by
    rw [remaining_cons] at h
    exact absurd (List.cons.inj h).1 (by decide)
  | x :: xs, y :: ys, _, _, hcuts, h => by
    rw [remaining_cons, remaining_cons, List.cons.injEq, List.cons.injEq] at h
    obtain ⟨hkey, htail⟩ := hcuts x (List.mem_cons_self ..) y (List.mem_cons_self ..) _ _
      (endsRun_remaining xs _) (endsRun_remaining ys _) h.2.2
    obtain ⟨hkeys, hrest⟩ := remaining_inj
      (fun x' hx' y' hy' => hcuts x' (List.mem_cons_of_mem _ hx') y' (List.mem_cons_of_mem _ hy'))
      htail
    exact ⟨by rw [List.map_cons, List.map_cons, hkey, hkeys], hrest⟩

theorem commaSeparated_map_cons (x : α) (xs : List α) (r : List Char) :
    commaSeparated ((x :: xs).map text) ++ ']' :: r = text x ++ remaining text xs r := by
  rw [List.map_cons, commaSeparated_cons, List.flatMap_map, List.append_assoc, remaining]

/-- Items in front of a closing bracket are read in one way, if each of them can be cut off and none
begins with the bracket. -/
theorem commaSeparated_append_inj {r r' : List Char}
    (hopens : ∀ x ∈ xs ++ ys, ∃ c cs, text x = c :: cs ∧ c ≠ ']')
    (hcuts : ∀ x ∈ xs, ∀ y ∈ ys, CutsOff text key x y)
    (h : commaSeparated (xs.map text) ++ ']' :: r = commaSeparated (ys.map text) ++ ']' :: r') :
    xs.map key = ys.map key ∧ r = r' := by
  -- No items at all on one side only would let an item on the other begin with the bracket.
  cases xs with
  | nil =>
    cases ys with
    | nil => exact ⟨rfl, (List.cons.inj h).2⟩
    | cons y ys =>
      obtain ⟨c, cs, hc, hne⟩ := hopens y (List.mem_cons_self ..)
      rw [commaSeparated_map_cons, hc] at h
      exact absurd (List.cons.inj h).1.symm hne
  | cons x xs =>
    obtain ⟨c, cs, hc, hne⟩ := hopens x (List.mem_cons_self ..)
    cases ys with
    | nil =>
      rw [commaSeparated_map_cons, hc] at h
      exact absurd (List.cons.inj h).1 hne
    | cons y ys =>
      rw [commaSeparated_map_cons, commaSeparated_map_cons] at h
      have hall : remaining text (x :: xs) r = remaining text (y :: ys) r' := by
        rw [remaining_cons, remaining_cons, h]
      exact remaining_inj hcuts hall

end Items

namespace Value

/-! ## The first character of a text -/

/-- The kinds of values that hold no floating-point number. -/
inductive Kind where
  | null | unit | bool | char | int | str | bytes | list

/-- The kind of a value, if this is not a floating-point number. -/
def kind? : Value → Option Kind
  | null => some .null
  | unit => some .unit
  | bool _ => some .bool
  | char _ => some .char
  | int .. => some .int
  | float .. => none
  | str _ => some .str
  | bytes _ => some .bytes
  | list _ => some .list

/-- The kind of the values whose texts begin with a character. -/
def kindOpenedBy (c : Char) : Option Kind :=
  if inNumeral c then some .int
  else if c = 'n' then some .null
  else if c = '(' then some .unit
  else if c = 't' ∨ c = 'f' then some .bool
  else if c = '\'' then some .char
  else if c = '"' then some .str
  else if c = 'b' then some .bytes
  else if c = '[' then some .list
  else none

/-- The first character of a value's text tells the kind of the value. -/
theorem exists_head {v : Value} (hv : v.floatFree = true) :
    ∃ c cs, v.chars = c :: cs ∧ kindOpenedBy c = v.kind? := by
  cases v with
  | int t n =>
    obtain ⟨c, cs, htext⟩ := List.exists_cons_of_ne_nil (toList_toString_ne_nil n)
    have hc : inNumeral c = true := inNumeral_of_mem (htext ▸ List.mem_cons_self ..)
    exact ⟨c, cs, htext, if_pos hc⟩
  | float => cases hv
  | bool b => cases b <;> exact ⟨_, _, rfl, rfl⟩
  | _ => exact ⟨_, _, rfl, rfl⟩

/-- So values with texts at the head of one text are of one kind. -/
theorem kind_eq_of_append {a b : Value} (ha : a.floatFree = true) (hb : b.floatFree = true)
    {r r' : List Char} (h : a.chars ++ r = b.chars ++ r') : a.kind? = b.kind? := by
  obtain ⟨c, cs, hc, hkind⟩ := exists_head ha
  obtain ⟨c', cs', hc', hkind'⟩ := exists_head hb
  rw [hc, hc'] at h
  rw [← hkind, ← hkind', (List.cons.inj h).1]

/-- No value's text begins with a closing bracket. -/
theorem exists_head_ne {v : Value} (hv : v.floatFree = true) :
    ∃ c cs, v.chars = c :: cs ∧ c ≠ ']' := by
  obtain ⟨c, cs, hc, hkind⟩ := exists_head hv
  refine ⟨c, cs, hc, ?_⟩
  rintro rfl
  cases v with
  | float => cases hv
  | _ => cases hkind

/-! ## Texts of values can be cut off -/

theorem itemChars_eq_map : ∀ vs : List Value, itemChars vs = vs.map chars
  | [] => rfl
  | v :: vs => by rw [itemChars, itemChars_eq_map vs, List.map_cons]

theorem plainItems_eq_map : ∀ vs : List Value, plainItems vs = vs.map plain
  | [] => rfl
  | v :: vs => by rw [plainItems, plainItems_eq_map vs, List.map_cons]

theorem floatFree_of_mem : ∀ {vs : List Value}, floatFreeItems vs = true →
    ∀ v ∈ vs, v.floatFree = true
  | [], _, _, hv => absurd hv List.not_mem_nil
  | w :: vs, h, v, hv => by
    rw [floatFreeItems, Bool.and_eq_true] at h
    rcases List.mem_cons.mp hv with rfl | hin
    · exact h.1
    · exact floatFree_of_mem h.2 v hin

theorem cutsOff_self (v : Value) : CutsOff chars plain v v :=
  fun _ _ _ _ h => ⟨rfl, List.append_cancel_left h⟩

theorem cutsOff_bool (x y : Bool) : CutsOff chars plain (bool x) (bool y) := by
  cases x <;> cases y
  · exact cutsOff_self _
  · intro r r' hr hr' h
    simp [chars] at h
  · intro r r' hr hr' h
    simp [chars] at h
  · exact cutsOff_self _

theorem cutsOff_char (c c' : Char) : CutsOff chars plain (char c) (char c') := by
  intro r r' hr hr' h
  rw [chars, chars] at h
  obtain ⟨hc, hrest⟩ := quotedWith_append_inj (Or.inl rfl) h
  exact ⟨by rw [List.singleton_inj.mp hc], hrest⟩

theorem cutsOff_str (s s' : String) : CutsOff chars plain (str s) (str s') := by
  intro r r' hr hr' h
  rw [chars, chars] at h
  obtain ⟨hs, hrest⟩ := quotedWith_append_inj (Or.inr rfl) h
  exact ⟨by rw [String.toList_inj.mp hs], hrest⟩

/-- Widths do not matter. -/
theorem cutsOff_ints (t t' : IntType) (m n : Int) : CutsOff chars plain (int t m) (int t' n) := by
  intro r r' hr hr' h
  rw [chars, chars] at h
  obtain ⟨hint, hrest⟩ := cutsOff_int m n r r' hr hr' h
  exact ⟨congrArg (int .i64) hint, hrest⟩

/-- Bytes in brackets end at the closing one. -/
theorem cutsOff_bytes (bs bs' : List UInt8) : CutsOff chars plain (bytes bs) (bytes bs') := by
  intro r r' _ _ h
  have hopens (b : UInt8) : ∃ c cs, (toString b.toNat).toList = c :: cs ∧ c ≠ ']' :=
    exists_head_ne (v := int .u8 b.toNat) rfl
  simp only [chars, byteChars, List.cons_append, List.append_assoc, List.nil_append,
    List.cons.injEq, true_and] at h
  obtain ⟨hbytes, hrest⟩ := commaSeparated_append_inj (fun b _ => hopens b)
    (fun b _ b' _ => cutsOff_byte b b') h
  rw [List.map_id, List.map_id] at hbytes
  exact ⟨by rw [hbytes], hrest⟩

/-- So do the items of a list, if their texts can be cut off. -/
theorem cutsOff_list {as bs : List Value} (ha : floatFreeItems as = true)
    (hb : floatFreeItems bs = true) (hcuts : ∀ a ∈ as, ∀ b ∈ bs, CutsOff chars plain a b) :
    CutsOff chars plain (list as) (list bs) := by
  intro r r' _ _ h
  have hopens : ∀ v ∈ as ++ bs, ∃ c cs, v.chars = c :: cs ∧ c ≠ ']' := by
    intro v hv
    rcases List.mem_append.mp hv with hin | hin
    · exact exists_head_ne (floatFree_of_mem ha v hin)
    · exact exists_head_ne (floatFree_of_mem hb v hin)
  simp only [chars, itemChars_eq_map, List.cons_append, List.append_assoc, List.nil_append,
    List.cons.injEq, true_and] at h
  obtain ⟨hitems, hrest⟩ := commaSeparated_append_inj hopens hcuts h
  exact ⟨by rw [plain, plain, plainItems_eq_map, plainItems_eq_map, hitems], hrest⟩

/-- It is enough to cut off the texts of values of one kind. -/
theorem cutsOff_of_kind {a b : Value} (ha : a.floatFree = true) (hb : b.floatFree = true)
    (h : a.kind? = b.kind? → CutsOff chars plain a b) : CutsOff chars plain a b :=
  fun r r' hr hr' heq => h (kind_eq_of_append ha hb heq) r r' hr hr' heq

mutual

/-- The text of a value can be cut off, and tells the value but for widths. -/
theorem cutsOff : ∀ {a b : Value}, a.floatFree = true → b.floatFree = true →
    CutsOff chars plain a b
  | list as, b, ha, hb => cutsOff_of_kind ha hb fun hkind => by
    cases b with
    | list bs =>
      rw [floatFree] at ha hb
      exact cutsOff_list ha hb (cutsOffItems ha (floatFree_of_mem hb))
    | _ => cases hkind
  | null, b, ha, hb => cutsOff_of_kind ha hb fun hkind => by
    cases b with
    | null => exact cutsOff_self null
    | _ => cases hkind
  | unit, b, ha, hb => cutsOff_of_kind ha hb fun hkind => by
    cases b with
    | unit => exact cutsOff_self unit
    | _ => cases hkind
  | bool x, b, ha, hb => cutsOff_of_kind ha hb fun hkind => by
    cases b with
    | bool y => exact cutsOff_bool x y
    | _ => cases hkind
  | char c, b, ha, hb => cutsOff_of_kind ha hb fun hkind => by
    cases b with
    | char c' => exact cutsOff_char c c'
    | _ => cases hkind
  | int t m, b, ha, hb => cutsOff_of_kind ha hb fun hkind => by
    cases b with
    | int t' n => exact cutsOff_ints t t' m n
    | _ => cases hkind
  | str s, b, ha, hb => cutsOff_of_kind ha hb fun hkind => by
    cases b with
    | str s' => exact cutsOff_str s s'
    | _ => cases hkind
  | bytes bs, b, ha, hb => cutsOff_of_kind ha hb fun hkind => by
    cases b with
    | bytes bs' => exact cutsOff_bytes bs bs'
    | _ => cases hkind
  | float .., _, ha, _ => by cases ha

theorem cutsOffItems : ∀ {as bs : List Value}, floatFreeItems as = true →
    (∀ b ∈ bs, b.floatFree = true) → ∀ a ∈ as, ∀ b ∈ bs, CutsOff chars plain a b
  | [], _, _, _ => fun _ ha => absurd ha List.not_mem_nil
  | v :: vs, bs, ha, hb => by
    rw [floatFreeItems, Bool.and_eq_true] at ha
    rw [List.forall_mem_cons]
    exact ⟨fun b hin => cutsOff ha.1 (hb b hin), cutsOffItems ha.2 hb⟩

end

/-! ## Texts and equality -/

mutual

/-- The text of a value does not show widths. -/
theorem chars_plain : ∀ v : Value, v.plain.chars = v.chars
  | list vs => by rw [plain, chars, chars, itemChars_plainItems vs]
  | int .. => rfl
  | null | unit | bool _ | char _ | float .. | str _ | bytes _ => rfl

theorem itemChars_plainItems : ∀ vs : List Value, itemChars (plainItems vs) = itemChars vs
  | [] => rfl
  | v :: vs => by rw [plainItems, itemChars, itemChars, chars_plain v, itemChars_plainItems vs]

end

theorem text_eq_iff {a b : Value} : a.text = b.text ↔ a.chars = b.chars :=
  ⟨String.ofList_inj.mp, congrArg String.ofList⟩

/-- Without floating-point numbers, values are equal exactly if their texts are. -/
theorem same_iff_chars_eq {a b : Value} (ha : a.floatFree = true) (hb : b.floatFree = true) :
    a.same b = true ↔ a.chars = b.chars := by
  rw [same_iff_plain_eq ha hb]
  constructor
  · intro h
    rw [← chars_plain a, ← chars_plain b, h]
  · intro h
    exact (cutsOff ha hb [] [] (endsRun_nil _) (endsRun_nil _) (congrArg (· ++ []) h)).1

/-- The text of a value tells which value it is. The report on a call that a literal rejects shows
the two texts, and without floating-point numbers in either value they differ. -/
theorem text_identifies :
    (∀ a b : Value, a.floatFree = true → b.floatFree = true →
      (a.same b = true ↔ a.text = b.text)) ∧
    ∀ (p : Pattern) (c : Invocation) (rs : List Rejection), p.rejections c = .ok rs →
      ∀ r ∈ rs, r.kind = .equality →
        ∃ e v, p.args[r.argument]? = some (.exact e) ∧ c.args[r.argument]? = some v ∧
          r.actual = v.text ∧ r.expected = e.text ∧
          (e.floatFree = true → v.floatFree = true →
            r.actual ≠ r.expected ∧
            r.detail = "  actual: " ++ r.actual ++ "\nexpected: " ++ r.expected) := by
  refine ⟨fun a b ha hb => (same_iff_chars_eq ha hb).trans text_eq_iff.symm, ?_⟩
  intro p c rs hrs r hr hkind
  obtain ⟨-, -, j, m, v, explanation, hm, hv, hrej, hexplain, rfl⟩ :=
    (Pattern.mem_rejections_iff hrs).mp hr
  cases m with
  | exact e =>
    -- A literal has nothing to add to the two texts.
    obtain rfl : none = explanation := Except.ok.inj hexplain
    rw [← Nat.zero_add j] at hm hv
    refine ⟨e, v, hm, hv, rfl, rfl, fun he hfree => ?_⟩
    have hne : v.text ≠ e.text := by
      intro heq
      have hsame : e.same v = true :=
        (same_iff_chars_eq he hfree).mpr (text_eq_iff.mp heq.symm)
      rw [Matcher.accepts, hsame] at hrej
      cases hrej
    exact ⟨hne, if_neg hne⟩
  | any | range | predicate => cases hkind

/-- Two strings in a list. -/
def twoNames : Value := list [str "a", str "b"]

/-- One string, with the separator of two in it. -/
def oneName : Value := list [str "a\", \"b"]

/-- Greeting the two. -/
def greeting : Pattern := ⟨⟨"Host", none⟩, ⟨"greet", [.list], .unit⟩, [.exact twoNames], "here"⟩

/-- A call that greets the one. -/
def oneGreeted : Invocation := ⟨⟨greeting.target, greeting.signature, [oneName], .home⟩, 0⟩

/-- The text of one string is not that of two, and the report on greeting the one instead of the
two shows the difference. -/
theorem text_identifies_names :
    twoNames.text ≠ oneName.text ∧
    ∃ r, greeting.rejections oneGreeted = .ok [r] ∧
      r.kind = .equality ∧
      r.detail = "  actual: " ++ oneName.text ++ "\nexpected: " ++ twoNames.text := by
  obtain ⟨htext, hreport⟩ := text_identifies
  refine ⟨fun h => ?_, (Matcher.exact twoNames).rejection 0 oneName none, rfl, rfl, ?_⟩
  · cases (htext twoNames oneName rfl rfl).mpr h
  · obtain ⟨e, v, he, hv, hactual, hexpected, hdetail⟩ :=
      hreport greeting oneGreeted _ rfl _ (List.mem_singleton_self _) rfl
    cases he
    cases hv
    exact (hdetail rfl rfl).2

end Value

end Understudy
