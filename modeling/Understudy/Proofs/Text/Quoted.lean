import Understudy.Text.Quoted

/-!
# Quoted texts end where they end

A quoted text tells by itself where it ends, whatever stands in it and whatever follows it. A
character is written in one of three ways (`escaped_cases`): by a backslash and a letter, by its
code point, or as it is. The ways are told apart by their first two characters, each of them tells
its character, and none begins with the quote. So two quoted texts at the head of one text are the
same text (`quotedWith_append_inj`).
-/

namespace Understudy.Text

/-! ## Where a run of characters ends -/

/-- A text does not begin with a character of a kind. -/
def EndsRun (p : Char → Bool) (r : List Char) : Prop := ∀ c ∈ r.head?, p c = false

theorem endsRun_nil (p : Char → Bool) : EndsRun p [] := nofun

theorem endsRun_cons {p : Char → Bool} {c : Char} (h : p c = false) (r : List Char) :
    EndsRun p (c :: r) := by
  intro c' hc
  cases hc
  exact h

theorem takeWhile_append_of_endsRun {p : Char → Bool} {xs r : List Char}
    (hxs : ∀ c ∈ xs, p c = true) (hr : EndsRun p r) : (xs ++ r).takeWhile p = xs := by
  rw [List.takeWhile_append_of_pos hxs]
  cases r with
  | nil => simp
  | cons c r => simp [hr c rfl]

/-- A run of characters of a kind is what stands before the first other one. -/
theorem append_inj_of_endsRun {p : Char → Bool} {xs ys r r' : List Char}
    (hxs : ∀ c ∈ xs, p c = true) (hys : ∀ c ∈ ys, p c = true) (hr : EndsRun p r)
    (hr' : EndsRun p r') (h : xs ++ r = ys ++ r') : xs = ys ∧ r = r' := by
  have hsame : xs = ys := by
    rw [← takeWhile_append_of_endsRun hxs hr, h, takeWhile_append_of_endsRun hys hr']
  exact ⟨hsame, List.append_cancel_left (hsame ▸ h)⟩

/-! ## Code points in digits -/

theorem digitChar_inj {m n : Nat} (hm : m < 16) (hn : n < 16)
    (h : Nat.digitChar m = Nat.digitChar n) : m = n := by
  have hall : ∀ m < 16, ∀ n < 16, Nat.digitChar m = Nat.digitChar n → m = n := by decide
  exact hall m hm n hn h

/-- Different numbers have different hexadecimal digits. -/
theorem toDigits_sixteen_inj {m n : Nat} (h : Nat.toDigits 16 m = Nat.toDigits 16 n) : m = n := by
  induction m using Nat.strongRecOn generalizing n with
  | ind m ih =>
    rw [Nat.toDigits_eq_if (by decide), Nat.toDigits_eq_if (n := n) (by decide)] at h
    have hlast {k : Nat} : k % 16 < 16 := Nat.mod_lt k (by decide)
    split at h
    · next hm =>
      split at h
      · next hn => exact digitChar_inj hm hn (List.singleton_inj.mp h)
      · exact absurd (List.append_eq_singleton_iff.mp h.symm) (by simp [Nat.toDigits_ne_nil])
    · split at h
      · exact absurd (List.append_eq_singleton_iff.mp h) (by simp [Nat.toDigits_ne_nil])
      · obtain ⟨hdiv, hmod⟩ := List.append_inj' h rfl
        have hdiv := ih (m / 16) (by omega) hdiv
        have hmod := digitChar_inj hlast hlast (List.singleton_inj.mp hmod)
        omega

/-- Digits are nothing but digits. -/
theorem exists_digitChar_of_mem_toDigits {b n : Nat} {c : Char} (hb : 1 < b)
    (hc : c ∈ Nat.toDigits b n) : ∃ d, c = Nat.digitChar d := by
  induction n using Nat.strongRecOn with
  | ind n ih =>
    rw [Nat.toDigits_eq_if hb] at hc
    split at hc
    · exact ⟨n, List.mem_singleton.mp hc⟩
    · next hn =>
      rcases List.mem_append.mp hc with hin | hlast
      · exact ih (n / b) (Nat.div_lt_self (by omega) hb) hin
      · exact ⟨n % b, List.mem_singleton.mp hlast⟩

/-- The escape of a code point ends at its brace. -/
theorem codeEscape_append_inj {c c' : Char} {r r' : List Char}
    (h : codeEscape c ++ r = codeEscape c' ++ r') : c = c' ∧ r = r' := by
  have hdigits (c : Char) : ∀ d ∈ Nat.toDigits 16 c.toNat, (d != '}') = true := by
    intro d hd
    obtain ⟨n, rfl⟩ := exists_digitChar_of_mem_toDigits (by decide) hd
    exact bne_iff_ne.mpr (Nat.digitChar_ne '}' (by decide))
  have hbrace (r : List Char) : EndsRun (· != '}') ('}' :: r) := endsRun_cons (by decide) r
  simp only [codeEscape, List.cons_append, List.append_assoc, List.nil_append, List.cons.injEq,
    true_and] at h
  obtain ⟨hcode, hrest⟩ :=
    append_inj_of_endsRun (hdigits c) (hdigits c') (hbrace r) (hbrace r') h
  exact ⟨Char.toNat_inj.mp (toDigits_sixteen_inj hcode), (List.cons.inj hrest).2⟩

/-! ## Escapes -/

/-- The two kinds of quotes. -/
def IsQuote (q : Char) : Prop := q = '\'' ∨ q = '"'

/-- The character that a letter after a backslash stands for. -/
def unlettered (l : Char) : Char :=
  if l = '0' then '\x00'
  else if l = 't' then '\t'
  else if l = 'r' then '\r'
  else if l = 'n' then '\n'
  else l

/-- The three ways in which a character is written. -/
inductive Written (q c : Char) : List Char → Prop where
  | lettered (l : Char) (hl : l ≠ 'u') (hc : c = unlettered l) : Written q c ['\\', l]
  | coded : Written q c (codeEscape c)
  | asIs (hc : c ≠ '\\') (hq : c ≠ q) : Written q c [c]

theorem escaped_cases {q : Char} (hq : IsQuote q) (c : Char) : Written q c (escaped q c) := by
  unfold escaped
  split
  · next h => exact .lettered '0' (by decide) h
  split
  · next h => exact .lettered 't' (by decide) h
  split
  · next h => exact .lettered 'r' (by decide) h
  split
  · next h => exact .lettered 'n' (by decide) h
  split
  · next h =>
    rcases h with rfl | rfl
    · exact .lettered '\\' (by decide) rfl
    · rcases hq with rfl | rfl
      · exact .lettered '\'' (by decide) rfl
      · exact .lettered '"' (by decide) rfl
  · next h =>
    split
    · exact .asIs (fun hc => h (Or.inl hc)) fun hc => h (Or.inr hc)
    · exact .coded

/-- However a character is written, this does not begin with the quote. -/
theorem Written.head_ne {q c : Char} {xs : List Char} (hq : IsQuote q) (h : Written q c xs) :
    ∃ x rest, xs = x :: rest ∧ x ≠ q := by
  have hslash : '\\' ≠ q := by rcases hq with rfl | rfl <;> decide
  cases h with
  | lettered l => exact ⟨'\\', [l], rfl, hslash⟩
  | coded => exact ⟨'\\', _, rfl, hslash⟩
  | asIs hc hcq => exact ⟨c, [], rfl, hcq⟩

/-- Two characters at the head of one text, however they are written, are the same. -/
theorem Written.append_inj {q c c' : Char} {xs xs' r r' : List Char} (h : Written q c xs)
    (h' : Written q c' xs') (heq : xs ++ r = xs' ++ r') : c = c' ∧ r = r' := by
  -- The second character, or the first, tells the three forms apart.
  cases h with
  | lettered l hl hc =>
    cases h' with
    | lettered l' hl' hc' =>
      simp only [List.cons_append, List.nil_append, List.cons.injEq, true_and] at heq
      exact ⟨by rw [hc, hc', heq.1], heq.2⟩
    | coded =>
      simp only [codeEscape, List.cons_append, List.nil_append, List.cons.injEq, true_and] at heq
      exact absurd heq.1 hl
    | asIs hc' hq' => exact absurd (List.cons.inj heq).1.symm hc'
  | coded =>
    cases h' with
    | lettered l' hl' hc' =>
      simp only [codeEscape, List.cons_append, List.nil_append, List.cons.injEq, true_and] at heq
      exact absurd heq.1.symm hl'
    | coded => exact codeEscape_append_inj heq
    | asIs hc' hq' => exact absurd (List.cons.inj heq).1.symm hc'
  | asIs hc hq =>
    cases h' with
    | lettered l' hl' hc' => exact absurd (List.cons.inj heq).1 hc
    | coded => exact absurd (List.cons.inj heq).1 hc
    | asIs hc' hq' => exact List.cons.inj heq

/-! ## Quoted texts -/

/-- Characters up to the next quote are read in one way. -/
theorem flatMap_escaped_append_inj {q : Char} (hq : IsQuote q) :
    ∀ {cs cs' r r' : List Char},
      cs.flatMap (escaped q) ++ q :: r = cs'.flatMap (escaped q) ++ q :: r' → cs = cs' ∧ r = r'
  | [], [], _, _, h => ⟨rfl, (List.cons.inj h).2⟩
  | [], c' :: cs', _, _, h => by
    obtain ⟨x, rest, hx, hne⟩ := (escaped_cases hq c').head_ne hq
    rw [List.flatMap_cons, hx] at h
    exact absurd (List.cons.inj h).1.symm hne
  | c :: cs, [], _, _, h => by
    obtain ⟨x, rest, hx, hne⟩ := (escaped_cases hq c).head_ne hq
    rw [List.flatMap_cons, hx] at h
    exact absurd (List.cons.inj h).1 hne
  | c :: cs, c' :: cs', _, _, h => by
    rw [List.flatMap_cons, List.flatMap_cons, List.append_assoc, List.append_assoc] at h
    obtain ⟨rfl, htail⟩ := (escaped_cases hq c).append_inj (escaped_cases hq c') h
    obtain ⟨rfl, hrest⟩ := flatMap_escaped_append_inj hq htail
    exact ⟨rfl, hrest⟩

/-- A quoted text ends at one place, and tells what is quoted. -/
theorem quotedWith_append_inj {q : Char} (hq : IsQuote q) {cs cs' r r' : List Char}
    (h : quotedWith q cs ++ r = quotedWith q cs' ++ r') : cs = cs' ∧ r = r' := by
  simp only [quotedWith, List.cons_append, List.append_assoc, List.nil_append, List.cons.injEq,
    true_and] at h
  exact flatMap_escaped_append_inj hq h

end Understudy.Text
