import EntityAtlas.Proofs.Markup.Dates

/-!
# Scalars that deceive

A plain scalar deceives if it has the look of a whole number, of a date or of a moment and denotes
none: a mark of a base may have no digit after it, a number may have more digits than are admitted,
a year, a month and a day need not be those of a date, and an hour or a distance from universal time
need not fit into a day. No other look comes before these, so such a scalar is refused for the
reason of its kind.
-/

namespace EntityAtlas.Markup

/-- Scalars with the look of a value that they do not denote, each with the reason. -/
inductive Deceptive : List Char → String → Prop where
  /-- A whole number, perhaps after a sign. -/
  | number {sign digits : List Char} {reason : String} (hsign : sign ∈ signs)
      (h : NoNumber digits reason) : Deceptive (sign ++ digits) reason
  /-- A date. -/
  | date {word : List Char} {reason : String} (h : NoDate word reason) : Deceptive word reason
  /-- A date with a time of day. -/
  | moment {word : List Char} {reason : String} (h : NoMoment word reason) : Deceptive word reason

/-! ## What does not look like a floating-point number -/

/-- The words for values. -/
def valueWords : List String :=
  reservedWords ++ nullWords ++ trueWords ++ falseWords ++ nanWords ++ infinityWords

theorem not_mem_valueWords {s : List Char} (h : ∃ c ∈ s, c.isDigit = true) :
    String.ofList s ∉ valueWords := by
  intro hmem
  have hnone : (valueWords.all fun w => !w.toList.any Char.isDigit) = true := by decide
  have hword := List.all_eq_true.mp hnone _ hmem
  rw [String.toList_ofList, List.any_eq_true.mpr h] at hword
  exact Bool.false_ne_true hword

theorem float?_eq_none {s : List Char} (h : '.' ∉ s) : float? s = none := by
  obtain ⟨sign, _, hs⟩ := unsigned_spec s
  have hbody : '.' ∉ (unsigned s).2 := fun hmem => h (hs ▸ List.mem_append_right sign hmem)
  have hword : ∀ words : List String, (∀ w ∈ words, '.' ∈ w.toList) → ∀ t : List Char, '.' ∉ t →
      String.ofList t ∉ words := by
    intro words hwords t ht hmem
    have hpoint := hwords _ hmem
    rw [String.toList_ofList] at hpoint
    exact ht hpoint
  unfold float?
  rw [if_neg (hword _ (by decide) s h)]
  generalize unsigned s = parts at hbody
  obtain ⟨negative, body⟩ := parts
  dsimp only at hbody ⊢
  rw [if_neg (hword _ (by decide) body hbody)]
  split
  case h_1 rest heq =>
    have hmem : '.' ∈ body.drop (body.takeWhile (isDigitOrGap 10)).length := by
      rw [heq]
      exact List.mem_cons_self
    exact absurd (List.mem_of_mem_drop hmem) hbody
  case h_2 => rfl

/-- What begins with a year and a hyphen has no point after its digits. -/
theorem Dated.float?_eq_none {s : List Char} (h : Dated s) : float? s = none := by
  obtain ⟨c, more, hs, hc, _⟩ := h.exists_cons
  have hwords := not_mem_valueWords ⟨c, hs ▸ List.mem_cons_self, hc⟩
  simp only [valueWords, List.mem_append, not_or] at hwords
  obtain ⟨⟨_, hnan⟩, hinfinity⟩ := hwords
  have hunsigned : unsigned s = (false, s) := hs ▸ unsigned_of_isDigit more hc
  obtain ⟨year, rest, rfl, hyear⟩ := h
  have hwhole : (year ++ '-' :: rest).takeWhile (isDigitOrGap 10) = year := by
    rw [List.takeWhile_append_of_pos fun c hc => isDigitOrGap_ten.mpr (.inr (hyear.digits c hc)),
      List.takeWhile_cons_of_neg (by decide), List.append_nil]
  unfold float?
  rw [if_neg hnan, hunsigned]
  dsimp only
  rw [if_neg hinfinity, hwhole, List.drop_left]
  rfl

theorem chars_of_lastPart? {part : List Char} {x : Float} (h : lastPart? part = some x) :
    '.' ∈ part ∧ ∀ c ∈ part, isDigitOrGap 10 c = true ∨ c = '.' := by
  unfold lastPart? at h
  dsimp only at h
  split at h
  case h_1 fraction hrest =>
    split at h
    case isTrue hshape =>
      rw [Bool.and_eq_true, List.all_eq_true] at hshape
      obtain ⟨hwhole, hfraction⟩ := hshape
      rw [← List.takeWhile_append_dropWhile (p := (· ≠ '.')) (l := part), hrest]
      refine ⟨List.mem_append_right _ List.mem_cons_self, fun c hc => ?_⟩
      rcases List.mem_append.mp hc with hc | hc
      · exact .inl (isDigitOrGap_ten.mpr (.inr (isDigit_of_isSixtieth hwhole c hc)))
      · rcases List.mem_cons.mp hc with rfl | hc
        · exact .inr rfl
        · exact .inl (hfraction c hc)
    case isFalse => cases h
  case h_2 => cases h

/-- A number in base sixty with decimals is a whole number, parts in base sixty and a last part with
the decimals. -/
theorem exists_parts_of_partsReal? {s : List Char} {r : Except MarkupFault Float}
    (h : partsReal? s = some r) :
    ∃ first inner last x, (unsigned s).2 = first ++ (inner ++ [last]).flatMap (':' :: ·) ∧
      (∀ c ∈ first, isDigitOrGap 10 c = true) ∧ (∀ part ∈ inner, isSixtieth part = true) ∧
      lastPart? last = some x := by
  unfold partsReal? at h
  generalize unsigned s = sides at h ⊢
  obtain ⟨negative, body⟩ := sides
  obtain ⟨first, rest, hparts, rfl⟩ := exists_colonParts body
  dsimp only at h ⊢
  rw [hparts] at h
  cases first with
  | nil => cases h
  | cons c first =>
    dsimp only at h
    split at h
    case isTrue hshape =>
      simp only [Bool.and_eq_true, List.all_eq_true] at hshape
      obtain ⟨⟨hc, hfirst⟩, hinner⟩ := hshape
      obtain ⟨last, hlast, h⟩ := Option.bind_eq_some_iff.mp h
      obtain ⟨x, hx, _⟩ := Option.bind_eq_some_iff.mp h
      obtain ⟨inner, rfl⟩ := List.getLast?_eq_some_iff.mp hlast
      rw [List.dropLast_concat] at hinner
      have hwhole : ∀ d ∈ c :: first, isDigitOrGap 10 d = true :=
        List.forall_mem_cons.mpr ⟨isDigitOrGap_ten.mpr (.inr hc), hfirst⟩
      exact ⟨c :: first, inner, last, x, rfl, hwhole, hinner, hx⟩
    case isFalse => cases h

/-- Such a number has a point, and only digits, gaps and colons beside it. -/
theorem chars_of_partsReal? {s : List Char} {r : Except MarkupFault Float}
    (h : partsReal? s = some r) :
    '.' ∈ (unsigned s).2 ∧
      ∀ c ∈ (unsigned s).2, isDigitOrGap 10 c = true ∨ c = '.' ∨ c = ':' := by
  obtain ⟨first, inner, last, x, hs, hfirst, hinner, hlast⟩ := exists_parts_of_partsReal? h
  obtain ⟨hpoint, hchars⟩ := chars_of_lastPart? hlast
  simp only [hs, List.mem_append, List.mem_flatMap, List.mem_cons, List.not_mem_nil, or_false]
  refine ⟨.inr ⟨last, .inr rfl, .inr hpoint⟩, fun c hc => ?_⟩
  rcases hc with hc | ⟨part, hpart | rfl, rfl | hc⟩
  · exact .inl (hfirst c hc)
  · exact .inr (.inr rfl)
  · exact .inl (isDigitOrGap_ten.mpr (.inr (isDigit_of_isSixtieth (hinner part hpart) c hc)))
  · exact .inr (.inr rfl)
  · exact (hchars c hc).imp_right .inl

theorem partsReal?_eq_none {s : List Char} (h : '.' ∉ s) : partsReal? s = none := by
  obtain ⟨sign, _, hs⟩ := unsigned_spec s
  match hr : partsReal? s with
  | none => rfl
  | some r =>
    have hpoint := (chars_of_partsReal? hr).1
    exact absurd (hs ▸ List.mem_append_right sign hpoint) h

theorem Dated.partsReal?_eq_none {s : List Char} (h : Dated s) : partsReal? s = none := by
  obtain ⟨d, rest, rfl, hd, hhyphen⟩ := h.exists_cons
  match hr : partsReal? (d :: rest) with
  | none => rfl
  | some r =>
    have hchars := (chars_of_partsReal? hr).2
    rw [unsigned_of_isDigit rest hd] at hchars
    rcases hchars '-' (List.mem_cons_of_mem d hhyphen) with h | h | h <;> exact absurd h (by decide)

theorem Dated.int?_eq_none {s : List Char} (h : Dated s) : int? s = none := by
  obtain ⟨d, rest, rfl, hd, hhyphen⟩ := h.exists_cons
  unfold int?
  rw [unsigned_of_isDigit rest hd]
  dsimp only
  rw [natural?_eq_none (List.mem_cons_of_mem d hhyphen)]
  rfl

/-! ## All scalars -/

namespace Deceptive

variable {word : List Char} {reason : String}

/-- A scalar that deceives begins with a digit, perhaps after a sign. -/
theorem start (h : Deceptive word reason) :
    ∃ sign ∈ signs, ∃ d rest, word = sign ++ d :: rest ∧ d.isDigit = true := by
  have hdated : Dated word → ∃ sign ∈ signs, ∃ d rest, word = sign ++ d :: rest ∧
      d.isDigit = true := by
    intro hword
    obtain ⟨d, rest, rfl, hd, _⟩ := hword.exists_cons
    exact ⟨[], by decide, d, rest, rfl, hd⟩
  cases h with
  | number hsign h =>
    obtain ⟨d, rest, rfl, hd⟩ := h.head_isDigit
    exact ⟨_, hsign, d, rest, rfl, hd⟩
  | date h => exact hdated h.dated
  | moment h => exact hdated h.dated

theorem exists_digit (h : Deceptive word reason) : ∃ c ∈ word, c.isDigit = true := by
  obtain ⟨sign, _, d, rest, rfl, hd⟩ := h.start
  exact ⟨d, List.mem_append_right sign List.mem_cons_self, hd⟩

/-- No mark of the notation breaks a scalar that deceives. -/
theorem inline (h : Deceptive word reason) : Inline word := by
  cases h with
  | @number sign digits reason hsign h =>
    simp only [signs, List.mem_cons, List.not_mem_nil, or_false] at hsign
    rcases hsign with rfl | rfl | rfl
    · exact h.inline
    · exact .cons (by decide) (by decide) h.inline
    · exact .cons (by decide) (by decide) h.inline
  | date h => exact h.inline
  | moment h => exact h.inline

theorem getLast?_ne (h : Deceptive word reason) : word.getLast? ≠ some ' ' := by
  cases h with
  | number hsign h =>
    obtain ⟨d, rest, hdigits, _⟩ := h.head_isDigit
    exact getLast?_append_ne (hdigits ▸ List.cons_ne_nil d rest) (h.not_mem (by decide) (by decide))
  | date h => exact h.getLast?_ne
  | moment h => exact h.getLast?_ne

end Deceptive

/-- A plain scalar that deceives is refused for its reason. -/
theorem scalar_eq_error {word : List Char} {reason : String} (h : Deceptive word reason) :
    scalar word = .error (.scalar reason) := by
  have hwords := not_mem_valueWords h.exists_digit
  simp only [valueWords, List.mem_append, not_or] at hwords
  obtain ⟨⟨⟨⟨⟨hreserved, hnull⟩, htrue⟩, hfalse⟩, _⟩, _⟩ := hwords
  unfold scalar
  simp only [if_neg hreserved, if_neg hnull, if_neg htrue, if_neg hfalse]
  cases h with
  | @number sign digits reason hsign h =>
    have hsigns : ∀ sign ∈ signs, '.' ∉ sign := by decide
    have hpoint : '.' ∉ sign ++ digits := by
      simp [hsigns sign hsign, h.not_mem (d := '.') (by decide) (by decide)]
    rw [float?_eq_none hpoint, partsReal?_eq_none hpoint, int?_eq_error.mpr ⟨_, hsign, _, rfl, h⟩]
    rfl
  | date h =>
    rw [h.dated.float?_eq_none, h.dated.partsReal?_eq_none, h.dated.int?_eq_none,
      date?_eq_error.mpr h]
    rfl
  | moment h =>
    rw [h.dated.float?_eq_none, h.dated.partsReal?_eq_none, h.dated.int?_eq_none, h.date?_eq_none,
      moment?_eq_error h]
    rfl

end EntityAtlas.Markup
