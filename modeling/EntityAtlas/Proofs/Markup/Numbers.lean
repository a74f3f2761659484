import EntityAtlas.Markup.Reader

/-!
# Whole numbers that are none

A plain scalar with the look of a whole number is refused with a reason exactly if a mark of a base
has no digit after it or if there are more digits than are admitted. What such a scalar is made of
tells that no mark of the notation breaks it.
-/

namespace EntityAtlas.Markup

/-- Texts with the look of an unsigned whole number that denote none, each with the reason. -/
inductive NoNumber : List Char → String → Prop where
  /-- No digit stands after the mark of the base. -/
  | bare {mark : Char} {base : Nat} {gaps : List Char}
      (hmark : (mark, base) ∈ [('b', 2), ('x', 16)]) (hne : gaps ≠ [])
      (hgaps : ∀ c ∈ gaps, c = '_') : NoNumber ('0' :: mark :: gaps) (noDigits base)
  /-- There are more digits than are admitted, in front of parts in base sixty if there are any. -/
  | long {d : Char} {digits : List Char} {parts : List (List Char)} (hd : d.isDigit = true)
      (hzero : d ≠ '0') (hdigits : ∀ c ∈ digits, isDigitOrGap 10 c = true)
      (hparts : ∀ part ∈ parts, isSixtieth part = true)
      (hmany : mostDigits < digitCount (d :: digits)) :
      NoNumber (d :: digits ++ parts.flatMap (':' :: ·)) (tooManyDigits (digitCount (d :: digits)))

/-- What may stand in front of a whole number. -/
def signs : List (List Char) := [[], ['-'], ['+']]

/-! ## Whole numbers -/

theorem toNat_of_isDigit {c : Char} (h : c.isDigit = true) : 48 ≤ c.toNat ∧ c.toNat ≤ 57 := by
  simpa [Char.isDigit, UInt32.le_iff_toNat_le] using h

theorem ne_of_eq_true {p : Char → Bool} {c d : Char} (hc : p c = true) (hd : p d = false) :
    c ≠ d := by
  rintro rfl
  exact Bool.false_ne_true (hd.symm.trans hc)

theorem isDigitOrGap_ten {c : Char} : isDigitOrGap 10 c = true ↔ c = '_' ∨ c.isDigit = true := by
  have hlt : c.isDigit = true → c.toNat - 48 < 10 := by
    intro h
    have hbounds := toNat_of_isDigit h
    omega
  unfold isDigitOrGap digit?
  cases hc : c.isDigit with
  | true => simp [hlt hc]
  | false =>
    -- a letter counts as ten or more
    simp only [Bool.false_eq_true, if_false, Bool.or_eq_true, decide_eq_true_eq, or_false]
    refine ⟨fun h => h.resolve_right ?_, Or.inl⟩
    split
    · simp [Option.filter]
    · split <;> simp [Option.filter]

theorem digitCount_eq_zero {s : List Char} : digitCount s = 0 ↔ ∀ c ∈ s, c = '_' := by
  simp [digitCount, List.countP_eq_zero]

theorem marked?_eq_error {base : Nat} {digits : List Char} {reason : String} :
    marked? base digits = some (.error (.scalar reason)) ↔
      digits ≠ [] ∧ (∀ c ∈ digits, c = '_') ∧ noDigits base = reason := by
  have hempty : digits.isEmpty = false ↔ digits ≠ [] := List.isEmpty_eq_false_iff
  have hshaped : (∀ c ∈ digits, c = '_') → digits.all (isDigitOrGap base) = true := fun hgaps =>
    List.all_eq_true.mpr fun c hc => by simp [isDigitOrGap, hgaps c hc]
  unfold marked?
  rw [← hempty, ← digitCount_eq_zero] at *
  cases digits.isEmpty with
  | true => simp
  | false =>
    by_cases hzero : digitCount digits = 0
    · simp [hzero, hshaped hzero]
    · cases digits.all (isDigitOrGap base) <;> simp [hzero]

theorem parts?_eq_error {first : List Char} {rest : List (List Char)} {reason : String} :
    parts? (first :: rest) = some (.error (.scalar reason)) ↔
      (∀ c ∈ first, isDigitOrGap 10 c = true) ∧ (∀ part ∈ rest, isSixtieth part = true) ∧
        mostDigits < digitCount first ∧ tooManyDigits (digitCount first) = reason := by
  have hall : (first.all (isDigitOrGap 10) && rest.all isSixtieth) = true ↔
      (∀ c ∈ first, isDigitOrGap 10 c = true) ∧ ∀ part ∈ rest, isSixtieth part = true := by
    rw [Bool.and_eq_true, List.all_eq_true, List.all_eq_true]
  rw [parts?, ← and_assoc, ← hall]
  cases first.all (isDigitOrGap 10) && rest.all isSixtieth with
  | false => simp
  | true => by_cases hmany : mostDigits < digitCount first <;> simp [hmany]

/-- The parts between colons, colons put between them again, are the text. -/
theorem exists_colonParts (s : List Char) :
    ∃ first parts, colonParts s = first :: parts ∧ s = first ++ parts.flatMap (':' :: ·) := by
  induction s with
  | nil => exact ⟨[], [], rfl, rfl⟩
  | cons c rest ih =>
    obtain ⟨first, parts, hparts, hrest⟩ := ih
    rw [colonParts, hparts]
    by_cases hc : c = ':'
    · exact ⟨[], first :: parts, if_pos hc, by simp [hc, hrest]⟩
    · exact ⟨c :: first, parts, if_neg hc, by simp [hrest]⟩

theorem colonParts_append {first : List Char} {parts : List (List Char)} (hfirst : ':' ∉ first)
    (hparts : ∀ part ∈ parts, ':' ∉ part) :
    colonParts (first ++ parts.flatMap (':' :: ·)) = first :: parts := by
  induction parts generalizing first with
  | nil =>
    induction first with
    | nil => rfl
    | cons c first ih =>
      obtain ⟨hc, hrest⟩ := List.ne_and_not_mem_of_not_mem_cons hfirst
      rw [List.cons_append, colonParts, ih hrest]
      exact if_neg (Ne.symm hc)
  | cons part parts ih =>
    obtain ⟨hpart, hrest⟩ := List.forall_mem_cons.mp hparts
    induction first with
    | nil =>
      rw [List.nil_append, List.flatMap_cons, List.cons_append, colonParts, ih hpart hrest]
      rfl
    | cons c first ihf =>
      obtain ⟨hc, hlater⟩ := List.ne_and_not_mem_of_not_mem_cons hfirst
      rw [List.cons_append, colonParts, ihf hlater]
      exact if_neg (Ne.symm hc)

theorem isDigit_of_isSixtieth {part : List Char} (h : isSixtieth part = true) :
    ∀ c ∈ part, c.isDigit = true := by
  unfold isSixtieth at h
  split at h
  case h_1 a => exact List.forall_mem_singleton.mpr h
  case h_2 a b =>
    simp only [Bool.and_eq_true, decide_eq_true_eq] at h
    obtain ⟨⟨hfrom, hto⟩, hb⟩ := h
    have ha : a.isDigit = true := by
      have hle : a ≤ '9' := Char.le_trans hto (by decide)
      simpa [Char.isDigit] using ⟨hfrom, hle⟩
    simp [ha, hb]
  case h_3 => cases h

theorem colon_not_mem_number {s : List Char} (h : ∀ c ∈ s, isDigitOrGap 10 c = true) : ':' ∉ s :=
  fun hmem => absurd (h _ hmem) (by decide)

theorem colon_not_mem_sixtieth {part : List Char} (h : isSixtieth part = true) : ':' ∉ part :=
  fun hmem => absurd (isDigit_of_isSixtieth h _ hmem) (by decide)

theorem natural?_of_isDigit {d : Char} {rest : List Char} (hd : d.isDigit = true)
    (hzero : d ≠ '0') : natural? (d :: rest) = parts? (colonParts (d :: rest)) := by
  simp [natural?, hzero, hd]

theorem natural?_eq_error {s : List Char} {reason : String} :
    natural? s = some (.error (.scalar reason)) ↔ NoNumber s reason := by
  constructor
  · intro h
    unfold natural? at h
    split at h
    case h_1 => cases h
    case h_2 digits =>
      obtain ⟨hne, hgaps, rfl⟩ := marked?_eq_error.mp h
      exact .bare (by decide) hne hgaps
    case h_3 digits =>
      obtain ⟨hne, hgaps, rfl⟩ := marked?_eq_error.mp h
      exact .bare (by decide) hne hgaps
    case h_4 digits _ _ _ =>
      split at h <;> cases h
    case h_5 c rest _ _ _ hzero =>
      split at h
      case isTrue hc =>
        obtain ⟨first, parts, hparts, hjoined⟩ := exists_colonParts (c :: rest)
        rw [hparts] at h
        obtain ⟨hfirst, hrest, hmany, rfl⟩ := parts?_eq_error.mp h
        cases first with
        | nil => exact absurd hmany (by decide)
        | cons d digits =>
          obtain rfl : c = d := List.head_eq_of_cons_eq hjoined
          rw [hjoined]
          exact .long hc hzero (List.forall_mem_cons.mp hfirst).2 hrest hmany
      case isFalse => cases h
    case h_6 => cases h
  · intro h
    cases h with
    | bare hmark hne hgaps =>
      simp only [List.mem_cons, Prod.mk.injEq, List.not_mem_nil, or_false] at hmark
      rcases hmark with ⟨rfl, rfl⟩ | ⟨rfl, rfl⟩
      · exact marked?_eq_error.mpr ⟨hne, hgaps, rfl⟩
      · exact marked?_eq_error.mpr ⟨hne, hgaps, rfl⟩
    | @long d digits parts hd hzero hdigits hparts hmany =>
      have hfirst : ∀ c ∈ d :: digits, isDigitOrGap 10 c = true :=
        List.forall_mem_cons.mpr ⟨isDigitOrGap_ten.mpr (.inr hd), hdigits⟩
      have hcolons : ∀ part ∈ parts, ':' ∉ part := fun part hpart =>
        colon_not_mem_sixtieth (hparts part hpart)
      rw [List.cons_append, natural?_of_isDigit hd hzero, ← List.cons_append,
        colonParts_append (colon_not_mem_number hfirst) hcolons]
      exact parts?_eq_error.mpr ⟨hfirst, hparts, hmany, rfl⟩

/-! ## Signs -/

theorem unsigned_spec (s : List Char) : ∃ sign ∈ signs, s = sign ++ (unsigned s).2 := by
  unfold unsigned
  split
  · exact ⟨['-'], by decide, rfl⟩
  · exact ⟨['+'], by decide, rfl⟩
  · exact ⟨[], by decide, rfl⟩

theorem NoNumber.head_isDigit {digits : List Char} {reason : String} (h : NoNumber digits reason) :
    ∃ d rest, digits = d :: rest ∧ d.isDigit = true := by
  cases h with
  | bare => exact ⟨_, _, rfl, by decide⟩
  | long hd => exact ⟨_, _, rfl, hd⟩

theorem unsigned_of_isDigit {d : Char} (rest : List Char) (hd : d.isDigit = true) :
    unsigned (d :: rest) = (false, d :: rest) := by
  unfold unsigned
  split
  case h_1 heq =>
    exact absurd (List.head_eq_of_cons_eq heq) (ne_of_eq_true hd (by decide))
  case h_2 heq =>
    exact absurd (List.head_eq_of_cons_eq heq) (ne_of_eq_true hd (by decide))
  case h_3 => rfl

theorem unsigned_append {sign digits : List Char} {reason : String} (hsign : sign ∈ signs)
    (h : NoNumber digits reason) : (unsigned (sign ++ digits)).2 = digits := by
  obtain ⟨d, rest, rfl, hd⟩ := h.head_isDigit
  simp only [signs, List.mem_cons, List.not_mem_nil, or_false] at hsign
  rcases hsign with rfl | rfl | rfl
  · rw [List.nil_append, unsigned_of_isDigit rest hd]
  · rfl
  · rfl

theorem int?_eq_error {s : List Char} {reason : String} :
    int? s = some (.error (.scalar reason)) ↔
      ∃ sign ∈ signs, ∃ digits, s = sign ++ digits ∧ NoNumber digits reason := by
  have hnatural : int? s = some (.error (.scalar reason)) ↔
      natural? (unsigned s).2 = some (.error (.scalar reason)) := by
    unfold int?
    generalize unsigned s = parts
    obtain ⟨negative, digits⟩ := parts
    dsimp only
    cases natural? digits with
    | none => simp
    | some r => cases r <;> simp [Functor.map, Except.map]
  rw [hnatural]
  constructor
  · intro h
    obtain ⟨sign, hsign, hs⟩ := unsigned_spec s
    exact ⟨sign, hsign, _, hs, natural?_eq_error.mp h⟩
  · rintro ⟨sign, hsign, digits, rfl, h⟩
    rw [unsigned_append hsign h]
    exact natural?_eq_error.mpr h

/-- No whole number has a hyphen after its sign. -/
theorem natural?_eq_none {s : List Char} (h : '-' ∈ s) : natural? s = none := by
  have hall : ∀ {base : Nat} {digits : List Char}, '-' ∈ digits →
      digits.all (isDigitOrGap base) = false := fun hmem =>
    List.all_eq_false.mpr ⟨'-', hmem, by simp [isDigitOrGap, digit?]⟩
  unfold natural?
  split
  case h_1 => exact absurd h (by decide)
  case h_2 digits =>
    have hmem : '-' ∈ digits := by simpa using h
    simp [marked?, hall hmem]
  case h_3 digits =>
    have hmem : '-' ∈ digits := by simpa using h
    simp [marked?, hall hmem]
  case h_4 digits _ _ _ =>
    have hmem : '-' ∈ digits := by simpa using h
    rw [if_neg (by simp [hall hmem])]
  case h_5 c rest _ _ _ _ =>
    obtain ⟨first, parts, hparts, hjoined⟩ := exists_colonParts (c :: rest)
    rw [hparts, parts?]
    have hshape : (first.all (isDigitOrGap 10) && parts.all isSixtieth) = false := by
      rw [hjoined, List.mem_append, List.mem_flatMap] at h
      rcases h with hfirst | ⟨part, hpart, hmem⟩
      · rw [hall hfirst, Bool.false_and]
      · have hnot : isSixtieth part ≠ true := fun hsix =>
          absurd (isDigit_of_isSixtieth hsix '-' (by simpa using hmem)) (by decide)
        rw [List.all_eq_false.mpr ⟨part, hpart, hnot⟩, Bool.and_false]
    rw [hshape]
    simp
  case h_6 => rfl

/-! ## What stands on one line -/

/-- Whether a character neither ends a plain scalar nor begins a comment. -/
def runsOn (c : Char) : Bool := isAdmitted c && c ∉ ['\n', '\r', '\t', '#']

/-- Whether a digit follows every colon. -/
def colonsHold : List Char → Bool
  | [] => true
  | c :: rest => (c ≠ ':' || rest.head?.any Char.isDigit) && colonsHold rest

/-- Texts that no mark of the notation breaks. -/
structure Inline (s : List Char) : Prop where
  /-- No character ends the text or begins a comment. -/
  chars : ∀ c ∈ s, runsOn c = true
  /-- No colon ends a key. -/
  colons : colonsHold s = true

theorem runsOn_of_isDigit {c : Char} (h : c.isDigit = true) : runsOn c = true := by
  have hbounds := toNat_of_isDigit h
  have hadmitted : isAdmitted c = true := by
    simp only [isAdmitted, Bool.or_eq_true, Bool.and_eq_true, decide_eq_true_eq]
    omega
  have hne : ∀ {d : Char}, d.isDigit = false → c ≠ d := ne_of_eq_true h
  simp [runsOn, hadmitted, hne]

namespace Inline

variable {s t : List Char}

theorem nil : Inline [] := ⟨List.forall_mem_nil _, rfl⟩

theorem append (hs : Inline s) (ht : Inline t) : Inline (s ++ t) := by
  refine ⟨List.forall_mem_append.mpr ⟨hs.chars, ht.chars⟩, ?_⟩
  have hcolons := hs.colons
  clear hs
  induction s with
  | nil => exact ht.colons
  | cons c s ih =>
    rw [colonsHold, Bool.and_eq_true] at hcolons
    obtain ⟨hc, hrest⟩ := hcolons
    rw [List.cons_append, colonsHold, ih hrest, Bool.and_true]
    -- the first character of what follows decides; without any, no colon stands here
    cases s with
    | nil =>
      have hne : c ≠ ':' := by simpa using hc
      simp [hne]
    | cons e s => exact hc

/-- A mark that is no colon may come first. -/
theorem cons {c : Char} (hc : runsOn c = true) (hne : c ≠ ':') (h : Inline s) :
    Inline (c :: s) := by
  refine ⟨List.forall_mem_cons.mpr ⟨hc, h.chars⟩, ?_⟩
  simp [colonsHold, hne, h.colons]

/-- A colon may come first if a digit does after it. -/
theorem colon {d : Char} (hd : d.isDigit = true) (h : Inline (d :: s)) :
    Inline (':' :: d :: s) := by
  refine ⟨List.forall_mem_cons.mpr ⟨by decide, h.chars⟩, ?_⟩
  rw [colonsHold, h.colons]
  simp [hd]

theorem of_digitsOrGaps (h : ∀ c ∈ s, isDigitOrGap 10 c = true) : Inline s := by
  induction s with
  | nil => exact nil
  | cons c s ih =>
    obtain ⟨hc, hrest⟩ := List.forall_mem_cons.mp h
    refine cons ?_ ?_ (ih hrest)
    · rcases isDigitOrGap_ten.mp hc with rfl | hdigit
      · decide
      · exact runsOn_of_isDigit hdigit
    · exact ne_of_eq_true hc (by decide)

theorem of_digits (h : ∀ c ∈ s, c.isDigit = true) : Inline s :=
  of_digitsOrGaps fun c hc => isDigitOrGap_ten.mpr (.inr (h c hc))

/-- Parts in base sixty after their colons. -/
theorem sixtieths {parts : List (List Char)} (h : ∀ part ∈ parts, isSixtieth part = true) :
    Inline (parts.flatMap (':' :: ·)) := by
  induction parts with
  | nil => exact nil
  | cons part parts ih =>
    obtain ⟨hpart, hrest⟩ := List.forall_mem_cons.mp h
    rw [List.flatMap_cons]
    refine append ?_ (ih hrest)
    have hdigits := isDigit_of_isSixtieth hpart
    cases part with
    | nil => cases hpart
    | cons d part => exact colon (hdigits d List.mem_cons_self) (of_digits hdigits)

end Inline

theorem getLast?_append_ne {s t : List Char} {d : Char} (ht : t ≠ []) (hd : d ∉ t) :
    (s ++ t).getLast? ≠ some d := by
  rcases List.eq_nil_or_concat t with rfl | ⟨before, last, rfl⟩
  · exact absurd rfl ht
  · rw [List.concat_eq_append, ← List.append_assoc, List.getLast?_concat]
    intro h
    exact hd (by simp [Option.some.inj h])

namespace NoNumber

variable {digits : List Char} {reason : String}

theorem inline (h : NoNumber digits reason) : Inline digits := by
  cases h with
  | @bare mark base gaps hmark hne hgaps =>
    have hmarks : ∀ entry ∈ [('b', 2), ('x', 16)], runsOn entry.1 = true ∧ entry.1 ≠ ':' := by
      decide
    obtain ⟨hmark, hcolon⟩ := hmarks _ hmark
    have hfilled : Inline gaps :=
      .of_digitsOrGaps fun c hc => isDigitOrGap_ten.mpr (.inl (hgaps c hc))
    exact .cons (by decide) (by decide) (.cons hmark hcolon hfilled)
  | @long d digits parts hd hzero hdigits hparts hmany =>
    have hfirst : ∀ c ∈ d :: digits, isDigitOrGap 10 c = true :=
      List.forall_mem_cons.mpr ⟨isDigitOrGap_ten.mpr (.inr hd), hdigits⟩
    exact .append (.of_digitsOrGaps hfirst) (.sixtieths hparts)

/-- Only digits, gaps, colons and the marks of bases stand in it. -/
theorem not_mem {d : Char} (h : NoNumber digits reason) (hd : isDigitOrGap 10 d = false)
    (hmarks : d ∉ [':', 'b', 'x']) : d ∉ digits := by
  have hne : ∀ {c : Char}, isDigitOrGap 10 c = true → d ≠ c := fun hc => (ne_of_eq_true hc hd).symm
  cases h with
  | @bare mark base gaps hmark hnil hgaps =>
    have hentries : ∀ entry ∈ [('b', 2), ('x', 16)], entry.1 ∈ [':', 'b', 'x'] := by decide
    intro hmem
    rcases List.mem_cons.mp hmem with rfl | hmem
    · exact hne (by decide) rfl
    rcases List.mem_cons.mp hmem with rfl | hmem
    · exact hmarks (hentries _ hmark)
    · exact hne (isDigitOrGap_ten.mpr (.inl rfl)) (hgaps d hmem)
  | @long first digits parts hfirst hzero hdigits hparts hmany =>
    intro hmem
    rw [List.cons_append, List.mem_cons, List.mem_append, List.mem_flatMap] at hmem
    rcases hmem with rfl | hmem | ⟨part, hpart, hmem⟩
    · exact hne (isDigitOrGap_ten.mpr (.inr hfirst)) rfl
    · exact hne (hdigits d hmem) rfl
    · rcases List.mem_cons.mp hmem with rfl | hmem
      · exact hmarks List.mem_cons_self
      · have hdigit := isDigit_of_isSixtieth (hparts part hpart) d hmem
        exact hne (isDigitOrGap_ten.mpr (.inr hdigit)) rfl

end NoNumber

end EntityAtlas.Markup
