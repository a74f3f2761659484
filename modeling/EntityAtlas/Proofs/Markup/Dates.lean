import EntityAtlas.Proofs.Markup.Numbers

/-!
# Dates and moments that are none

A plain scalar with the look of a date, or of a date with a time of day, is refused with a reason if
its numbers are not those of a date or of a moment. The look of a moment is given part by part, and
each part is read off the front of what it starts.
-/

namespace EntityAtlas.Markup

/-- Texts of digits of bounded length. -/
structure IsDigits (least most : Nat) (s : List Char) : Prop where
  /-- There are enough of them. -/
  least_le : least ≤ s.length
  /-- There are not too many of them. -/
  le_most : s.length ≤ most
  /-- All characters are digits. -/
  digits : ∀ c ∈ s, c.isDigit = true

/-- Texts with the look of a date that denote none, each with the reason. -/
inductive NoDate : List Char → String → Prop where
  /-- A year, a month and a day that are not those of a date. -/
  | unknown {year month day : List Char} {fault : DateFault} (hyear : IsDigits 4 4 year)
      (hmonth : IsDigits 2 2 month) (hday : IsDigits 2 2 day)
      (hcheck : Date.check (digitsValue 10 year) (digitsValue 10 month) (digitsValue 10 day) =
        .error fault) :
      NoDate (year ++ '-' :: (month ++ '-' :: day)) fault.message

/-- What may stand between a date and a time of day. -/
inductive Gap : List Char → Prop where
  /-- A letter. -/
  | letter {c : Char} (h : c = 'T' ∨ c = 't') : Gap [c]
  /-- One or more blanks. -/
  | blanks (n : Nat) : Gap (List.replicate (n + 1) ' ')

/-- What may stand after the seconds, with the decimals in it. -/
inductive Fraction : List Char → List Char → Prop where
  /-- The seconds are whole. -/
  | whole : Fraction [] []
  /-- There are decimals, or at least a point for them. -/
  | point {digits : List Char} (h : ∀ c ∈ digits, c.isDigit = true) :
    Fraction ('.' :: digits) digits

/-- What may stand at the end of a moment, with the distance from universal time that it tells. -/
inductive Zone : List Char → Option Int → Prop where
  /-- No distance is told. -/
  | untold : Zone [] none
  /-- The time is universal. -/
  | universal (n : Nat) : Zone (List.replicate n ' ' ++ ['Z']) (some 0)
  /-- The distance is told in hours. -/
  | hours (n : Nat) {sign : Char} {hours : List Char} (hsign : sign = '+' ∨ sign = '-')
      (hhours : IsDigits 1 2 hours) :
      Zone (List.replicate n ' ' ++ sign :: hours) (some (signedMinutes sign hours []))
  /-- The distance is told in hours and minutes. -/
  | minutes (n : Nat) {sign : Char} {hours minutes : List Char} (hsign : sign = '+' ∨ sign = '-')
      (hhours : IsDigits 1 2 hours) (hminutes : IsDigits 2 2 minutes) :
      Zone (List.replicate n ' ' ++ sign :: (hours ++ ':' :: minutes))
        (some (signedMinutes sign hours minutes))

/-- Texts with the look of a date and a time of day that denote no moment, each with the reason. -/
inductive NoMoment : List Char → String → Prop where
  /-- Units that are not those of a moment. -/
  | unknown {year month day gap hour minute second point decimals zone : List Char}
      {ahead : Option Int} {fault : MomentFault}
      (hyear : IsDigits 4 4 year) (hmonth : IsDigits 1 2 month) (hday : IsDigits 1 2 day)
      (hgap : Gap gap) (hhour : IsDigits 1 2 hour) (hminute : IsDigits 2 2 minute)
      (hsecond : IsDigits 2 2 second) (hpoint : Fraction point decimals) (hzone : Zone zone ahead)
      (hcheck : Moment.check (digitsValue 10 year) (digitsValue 10 month) (digitsValue 10 day)
        (digitsValue 10 hour) (digitsValue 10 minute) (digitsValue 10 second)
        (microseconds decimals) ahead = .error fault) :
      NoMoment (year ++ '-' :: (month ++ '-' :: (day ++ (gap ++ (hour ++ ':' :: (minute ++
        ':' :: (second ++ (point ++ zone)))))))) fault.message

namespace IsDigits

variable {least most : Nat} {s : List Char}

theorem length_eq (h : IsDigits least least s) : s.length = least :=
  Nat.le_antisymm h.le_most h.least_le

theorem exists_cons (h : IsDigits (least + 1) most s) :
    ∃ d rest, s = d :: rest ∧ d.isDigit = true := by
  cases s with
  | nil => exact absurd h.least_le (by simp)
  | cons d rest => exact ⟨d, rest, rfl, h.digits d List.mem_cons_self⟩

end IsDigits

/-! ## Dates -/

theorem date?_eq_error {s : List Char} {reason : String} :
    date? s = some (.error (.scalar reason)) ↔ NoDate s reason := by
  constructor
  · intro h
    unfold date? at h
    split at h
    case h_1 a b c d e f g k =>
      split at h
      case isTrue hdigits =>
        split at h
        case h_1 => cases h
        case h_2 fault hcheck =>
          obtain rfl : fault.message = reason := by simpa using h
          have hall : ∀ x ∈ [a, b, c, d] ++ [e, f] ++ [g, k], x.isDigit = true :=
            List.all_eq_true.mp hdigits
          obtain ⟨hdate, hday⟩ := List.forall_mem_append.mp hall
          obtain ⟨hyear, hmonth⟩ := List.forall_mem_append.mp hdate
          exact @NoDate.unknown [a, b, c, d] [e, f] [g, k] fault
            ⟨Nat.le_refl 4, Nat.le_refl 4, hyear⟩ ⟨Nat.le_refl 2, Nat.le_refl 2, hmonth⟩
            ⟨Nat.le_refl 2, Nat.le_refl 2, hday⟩ hcheck
      case isFalse => cases h
    case h_2 => cases h
  · intro h
    cases h with
    | @unknown year month day fault hyear hmonth hday hcheck =>
      match year, month, day, hyear.length_eq, hmonth.length_eq, hday.length_eq with
      | [a, b, c, d], [e, f], [g, k], _, _, _ =>
        have hall : [a, b, c, d, e, f, g, k].all Char.isDigit = true :=
          List.all_eq_true.mpr (List.forall_mem_append.mpr
            ⟨List.forall_mem_append.mpr ⟨hyear.digits, hmonth.digits⟩, hday.digits⟩)
        simp only [List.cons_append, List.nil_append, date?]
        rw [if_pos hall, hcheck]

/-! ## The parts of a moment -/

/-- No digit comes first. -/
def NoDigitAhead (s : List Char) : Prop := ∀ c rest, s = c :: rest → c.isDigit = false

theorem noDigitAhead_cons {c : Char} {rest : List Char} (h : c.isDigit = false) :
    NoDigitAhead (c :: rest) := by
  rintro _ _ ⟨⟩
  exact h

theorem takeWhile_isDigit_eq_nil {s : List Char} (h : NoDigitAhead s) :
    s.takeWhile Char.isDigit = [] := by
  cases s with
  | nil => rfl
  | cons c rest => rw [List.takeWhile_cons_of_neg (by simp [h c rest rfl])]

theorem leadingDigits?_append {least most : Nat} {digits rest : List Char}
    (h : IsDigits least most digits) (hrest : NoDigitAhead rest) :
    leadingDigits? least most (digits ++ rest) = some (digits, rest) := by
  have hahead : NoDigitAhead (rest.take (most - digits.length)) := by
    intro c more hmore
    cases rest with
    | nil => rw [List.take_nil] at hmore; cases hmore
    | cons d rest =>
      cases hcount : most - digits.length with
      | zero => rw [hcount] at hmore; cases hmore
      | succ n =>
        rw [hcount, List.take_succ_cons] at hmore
        exact List.head_eq_of_cons_eq hmore ▸ hrest d rest rfl
  have htake : ((digits ++ rest).take most).takeWhile Char.isDigit = digits := by
    rw [List.take_append, List.take_of_length_le h.le_most, List.takeWhile_append_of_pos h.digits,
      takeWhile_isDigit_eq_nil hahead, List.append_nil]
  unfold leadingDigits?
  rw [htake]
  dsimp only
  rw [if_pos h.least_le, List.drop_left]

theorem leadingDigits?_all {least most : Nat} {digits : List Char}
    (h : IsDigits least most digits) :
    leadingDigits? least most digits = some (digits, []) := by
  have hnil : NoDigitAhead [] := nofun
  simpa using leadingDigits?_append h hnil

theorem after?_cons (mark : Char) (rest : List Char) : after? mark (mark :: rest) = some rest :=
  if_pos rfl

namespace Gap

variable {gap : List Char}

theorem noDigitAhead (h : Gap gap) (rest : List Char) : NoDigitAhead (gap ++ rest) := by
  cases h with
  | letter h => rcases h with rfl | rfl <;> exact noDigitAhead_cons (by decide)
  | blanks n => exact noDigitAhead_cons (by decide)

/-- The gap is passed over up to the digits after it. -/
theorem afterGap?_append {least most : Nat} {digits : List Char} (h : Gap gap)
    (hdigits : IsDigits (least + 1) most digits) (rest : List Char) :
    afterGap? (gap ++ (digits ++ rest)) = some (digits ++ rest) := by
  obtain ⟨d, more, rfl, hd⟩ := hdigits.exists_cons
  cases h with
  | letter h => exact if_pos h
  | blanks n =>
    have hne : d ≠ ' ' := ne_of_eq_true hd (by decide)
    rw [List.replicate_succ, List.cons_append, afterGap?, if_neg (by decide), if_pos rfl,
      List.dropWhile_append_of_pos (by simp), List.cons_append,
      List.dropWhile_cons_of_neg (by simpa using hne)]

end Gap

namespace Zone

variable {zone : List Char} {ahead : Option Int}

/-- Neither a digit nor a point comes first. -/
theorem head_ne (h : Zone zone ahead) :
    ∀ c rest, zone = c :: rest → c.isDigit = false ∧ c ≠ '.' := by
  have hblanks : ∀ (n : Nat) {mark : Char} (more : List Char),
      mark.isDigit = false ∧ mark ≠ '.' → ∀ c rest,
        List.replicate n ' ' ++ mark :: more = c :: rest → c.isDigit = false ∧ c ≠ '.' := by
    rintro (_ | n) mark more hmark c rest hzone
    · obtain ⟨rfl, _⟩ := List.cons.inj hzone
      exact hmark
    · obtain ⟨rfl, _⟩ := List.cons.inj hzone
      decide
  have hsigned : ∀ {sign : Char}, sign = '+' ∨ sign = '-' → sign.isDigit = false ∧ sign ≠ '.' := by
    rintro _ (rfl | rfl) <;> decide
  cases h with
  | untold => exact nofun
  | universal n => exact hblanks n [] (by decide)
  | hours n hsign _ => exact hblanks n _ (hsigned hsign)
  | minutes n hsign _ _ => exact hblanks n _ (hsigned hsign)

theorem noDigitAhead (h : Zone zone ahead) : NoDigitAhead zone := fun c rest hzone =>
  (h.head_ne c rest hzone).1

theorem zone?_blanks (n : Nat) {mark : Char} (hmark : mark ≠ ' ') (more : List Char) :
    zone? (List.replicate n ' ' ++ mark :: more) = zone? (mark :: more) := by
  have hdrop : (List.replicate n ' ' ++ mark :: more).dropWhile (· = ' ') = mark :: more := by
    rw [List.dropWhile_append_of_pos (by simp), List.dropWhile_cons_of_neg (by simpa using hmark)]
  have hnil : (List.replicate n ' ' ++ mark :: more).isEmpty = false := by simp
  unfold zone?
  rw [hnil, hdrop, List.dropWhile_cons_of_neg (by simpa using hmark)]
  rfl

theorem zone?_signed {sign : Char} (hsign : sign = '+' ∨ sign = '-') (rest : List Char) :
    zone? (sign :: rest) =
      (clockAhead? rest).map fun p => some (signedMinutes sign p.1 p.2) := by
  rcases hsign with rfl | rfl <;> rfl

theorem zone?_eq (h : Zone zone ahead) : zone? zone = some ahead := by
  have hblank : ∀ {sign : Char}, sign = '+' ∨ sign = '-' → sign ≠ ' ' := by
    rintro _ (rfl | rfl) <;> decide
  cases h with
  | untold => rfl
  | universal n => rw [zone?_blanks n (by decide)]; rfl
  | @hours n sign hours hsign hhours =>
    have hread := leadingDigits?_all hhours
    rw [zone?_blanks n (hblank hsign), zone?_signed hsign, clockAhead?, hread]
    rfl
  | @minutes n sign hours minutes hsign hhours hminutes =>
    have hfirst : leadingDigits? 1 2 (hours ++ ':' :: minutes) = some (hours, ':' :: minutes) :=
      leadingDigits?_append hhours (noDigitAhead_cons (by decide))
    have hsecond := leadingDigits?_all hminutes
    rw [zone?_blanks n (hblank hsign), zone?_signed hsign, clockAhead?, hfirst]
    simp [after?_cons, hsecond]

end Zone

namespace Fraction

variable {point digits zone : List Char} {ahead : Option Int}

theorem noDigitAhead (h : Fraction point digits) (hzone : Zone zone ahead) :
    NoDigitAhead (point ++ zone) := by
  cases h with
  | whole => exact hzone.noDigitAhead
  | point h => exact noDigitAhead_cons (by decide)

theorem decimals_append (h : Fraction point digits) (hzone : Zone zone ahead) :
    decimals (point ++ zone) = (digits, zone) := by
  cases h with
  | whole =>
    cases zone with
    | nil => rfl
    | cons c rest => exact if_neg (hzone.head_ne c rest rfl).2
  | point h =>
    have hnil : zone.takeWhile Char.isDigit = [] := takeWhile_isDigit_eq_nil hzone.noDigitAhead
    have hall : zone.dropWhile Char.isDigit = zone := by
      simpa [hnil] using List.takeWhile_append_dropWhile (p := Char.isDigit) (l := zone)
    rw [List.cons_append, decimals, if_pos rfl, List.takeWhile_append_of_pos h,
      List.dropWhile_append_of_pos h, hnil, hall, List.append_nil]

end Fraction

/-! ## Moments -/

theorem moment?_eq_error {s : List Char} {reason : String} (h : NoMoment s reason) :
    moment? s = some (.error (.scalar reason)) := by
  cases h with
  | @unknown year month day gap hour minute second point decimals zone ahead fault hyear hmonth hday
      hgap hhour hminute hsecond hpoint hzone hcheck =>
    have hhyphen : ∀ rest, NoDigitAhead ('-' :: rest) := fun _ => noDigitAhead_cons (by decide)
    have hcolon : ∀ rest, NoDigitAhead (':' :: rest) := fun _ => noDigitAhead_cons (by decide)
    simp only [moment?, leadingDigits?_append hyear (hhyphen _),
      leadingDigits?_append hmonth (hhyphen _), leadingDigits?_append hday (hgap.noDigitAhead _),
      hgap.afterGap?_append hhour, leadingDigits?_append hhour (hcolon _),
      leadingDigits?_append hminute (hcolon _),
      leadingDigits?_append hsecond (hpoint.noDigitAhead hzone), hpoint.decimals_append hzone,
      hzone.zone?_eq, after?_cons, hcheck, Option.bind_eq_bind, Option.bind_some]
    rfl

/-- A moment has more characters than a date alone. -/
theorem NoMoment.date?_eq_none {s : List Char} {reason : String} (h : NoMoment s reason) :
    date? s = none := by
  have hlong : 10 < s.length := by
    cases h with
    | unknown hyear hmonth hday hgap hhour hminute hsecond hpoint hzone hcheck =>
      have hy := hyear.least_le
      have hmo := hmonth.least_le
      have hd := hday.least_le
      have hh := hhour.least_le
      have hmi := hminute.least_le
      have hs := hsecond.least_le
      simp only [List.length_append, List.length_cons]
      omega
  unfold date?
  split
  · exact absurd hlong (by simp)
  · rfl

/-! ## What stands on one line -/

/-- A year and a hyphen come first. -/
def Dated (s : List Char) : Prop := ∃ year rest, s = year ++ '-' :: rest ∧ IsDigits 4 4 year

theorem Dated.exists_cons {s : List Char} (h : Dated s) :
    ∃ d rest, s = d :: rest ∧ d.isDigit = true ∧ '-' ∈ rest := by
  obtain ⟨year, rest, rfl, hyear⟩ := h
  obtain ⟨d, more, rfl, hd⟩ := hyear.exists_cons
  exact ⟨d, more ++ '-' :: rest, rfl, hd, by simp⟩

namespace IsDigits

variable {least most : Nat} {s t : List Char}

theorem inline (h : IsDigits least most s) : Inline s := .of_digits h.digits

theorem inline_colon (h : IsDigits (least + 1) most s) (ht : Inline t) :
    Inline (':' :: (s ++ t)) := by
  obtain ⟨d, rest, rfl, hd⟩ := h.exists_cons
  exact .colon hd (h.inline.append ht)

theorem ne_nil (h : IsDigits (least + 1) most s) : s ≠ [] := by
  obtain ⟨d, rest, rfl, _⟩ := h.exists_cons
  exact List.cons_ne_nil d rest

theorem blank_not_mem (h : IsDigits least most s) : ' ' ∉ s := fun hmem =>
  absurd (h.digits _ hmem) (by decide)

end IsDigits

theorem inline_blanks (n : Nat) : Inline (List.replicate n ' ') := by
  induction n with
  | zero => exact .nil
  | succ n ih => exact .cons (by decide) (by decide) ih

theorem Gap.inline {gap : List Char} (h : Gap gap) : Inline gap := by
  cases h with
  | letter h => rcases h with rfl | rfl <;> exact .cons (by decide) (by decide) .nil
  | blanks n => exact inline_blanks (n + 1)

theorem Fraction.inline {point digits : List Char} (h : Fraction point digits) : Inline point := by
  cases h with
  | whole => exact .nil
  | point h => exact .cons (by decide) (by decide) (.of_digits h)

theorem Fraction.blank_not_mem {point digits : List Char} (h : Fraction point digits) :
    ' ' ∉ point := by
  cases h with
  | whole => exact List.not_mem_nil
  | point h =>
    intro hmem
    rcases List.mem_cons.mp hmem with hblank | hmem
    · exact absurd hblank (by decide)
    · exact absurd (h _ hmem) (by decide)

namespace Zone

variable {zone : List Char} {ahead : Option Int}

/-- What stands after the blanks of a zone, if anything does. -/
theorem exists_blanks (h : Zone zone ahead) :
    zone = [] ∨ ∃ n told, zone = List.replicate n ' ' ++ told ∧ Inline told ∧ told ≠ [] ∧
      ' ' ∉ told := by
  have hsigned : ∀ {sign : Char}, sign = '+' ∨ sign = '-' →
      runsOn sign = true ∧ sign ≠ ':' ∧ ' ' ≠ sign := by
    rintro _ (rfl | rfl) <;> decide
  cases h with
  | untold => exact .inl rfl
  | universal n =>
    exact .inr ⟨n, ['Z'], rfl, .cons (by decide) (by decide) .nil, by decide, by decide⟩
  | @hours n sign hours hsign hhours =>
    obtain ⟨hnumeral, hcolon, hblank⟩ := hsigned hsign
    refine .inr ⟨n, sign :: hours, rfl, .cons hnumeral hcolon hhours.inline,
      List.cons_ne_nil sign hours, ?_⟩
    simp [hblank, hhours.blank_not_mem]
  | @minutes n sign hours minutes hsign hhours hminutes =>
    obtain ⟨hnumeral, hcolon, hblank⟩ := hsigned hsign
    have hrest : Inline (':' :: minutes) := by
      simpa using hminutes.inline_colon .nil
    refine .inr ⟨n, sign :: (hours ++ ':' :: minutes), rfl,
      .cons hnumeral hcolon (hhours.inline.append hrest), List.cons_ne_nil sign _, ?_⟩
    simp [hblank, hhours.blank_not_mem, hminutes.blank_not_mem]

theorem inline (h : Zone zone ahead) : Inline zone := by
  rcases h.exists_blanks with rfl | ⟨n, told, rfl, htold, _, _⟩
  · exact .nil
  · exact (inline_blanks n).append htold

theorem getLast?_append_ne {before : List Char} (h : Zone zone ahead)
    (hbefore : before.getLast? ≠ some ' ') : (before ++ zone).getLast? ≠ some ' ' := by
  rcases h.exists_blanks with rfl | ⟨n, told, rfl, _, hne, hblank⟩
  · rwa [List.append_nil]
  · rw [← List.append_assoc]
    exact Markup.getLast?_append_ne hne hblank

end Zone

namespace NoDate

variable {word : List Char} {reason : String}

theorem dated (h : NoDate word reason) : Dated word := by
  cases h with
  | unknown hyear => exact ⟨_, _, rfl, hyear⟩

theorem inline (h : NoDate word reason) : Inline word := by
  have hhyphen : ∀ {s}, Inline s → Inline ('-' :: s) := .cons (by decide) (by decide)
  cases h with
  | unknown hyear hmonth hday hcheck =>
    exact hyear.inline.append (hhyphen (hmonth.inline.append (hhyphen hday.inline)))

theorem getLast?_ne (h : NoDate word reason) : word.getLast? ≠ some ' ' := by
  cases h with
  | @unknown year month day fault hyear hmonth hday hcheck =>
    rw [show year ++ '-' :: (month ++ '-' :: day) = year ++ '-' :: (month ++ ['-']) ++ day by simp]
    exact getLast?_append_ne hday.ne_nil hday.blank_not_mem

end NoDate

namespace NoMoment

variable {word : List Char} {reason : String}

theorem dated (h : NoMoment word reason) : Dated word := by
  cases h with
  | unknown hyear => exact ⟨_, _, rfl, hyear⟩

theorem inline (h : NoMoment word reason) : Inline word := by
  have hhyphen : ∀ {s}, Inline s → Inline ('-' :: s) := .cons (by decide) (by decide)
  cases h with
  | unknown hyear hmonth hday hgap hhour hminute hsecond hpoint hzone hcheck =>
    have hseconds := hsecond.inline_colon (hpoint.inline.append hzone.inline)
    have htime := hhour.inline.append (hminute.inline_colon hseconds)
    have hmonths := hmonth.inline.append (hhyphen (hday.inline.append (hgap.inline.append htime)))
    exact hyear.inline.append (hhyphen hmonths)

theorem getLast?_ne (h : NoMoment word reason) : word.getLast? ≠ some ' ' := by
  cases h with
  | @unknown year month day gap hour minute second point decimals zone ahead fault hyear hmonth hday
      hgap hhour hminute hsecond hpoint hzone hcheck =>
    have hlast : second ++ point ≠ [] ∧ ' ' ∉ second ++ point :=
      ⟨List.append_ne_nil_of_left_ne_nil hsecond.ne_nil point,
        by simp [hsecond.blank_not_mem, hpoint.blank_not_mem]⟩
    have hbefore := getLast?_append_ne (s := year ++ '-' :: (month ++ '-' :: (day ++ (gap ++
      (hour ++ ':' :: (minute ++ [':'])))))) hlast.1 hlast.2
    have hword := hzone.getLast?_append_ne hbefore
    simpa only [List.append_assoc, List.cons_append, List.nil_append] using hword

end NoMoment

end EntityAtlas.Markup
