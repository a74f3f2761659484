import EntityAtlas.Markup.Conversion
import EntityAtlas.Proofs.Markup.Conversions

/-!
# Reading a version that deceives

A snapshot that declares only its version is composed to a record of one entry, if no mark of the
notation breaks the version. The version is then converted; if it deceives, the text is refused for
its reason.
-/

namespace EntityAtlas.Markup

/-- The text of a snapshot that declares only its version. -/
def versionText (word : List Char) : String := "schema_version: " ++ String.ofList word ++ "\n"

namespace Cursor

theorem next_rest (c : Cursor) : c.next.rest = c.rest.drop 1 := by
  unfold next
  split <;> rename_i h <;> simp [h]

theorem skip_rest (c : Cursor) (n : Nat) : (c.skip n).rest = c.rest.drop n := by
  induction n generalizing c with
  | zero => rfl
  | succ n ih => rw [skip, ih, next_rest, List.drop_drop, Nat.add_comm]

end Cursor

/-! ## Plain scalars -/

theorem plainLength_append {s rest : List Char} (hs : Inline s) (hrest : plainLength false rest = 0)
    (hhash : rest.head? ≠ some '#') : plainLength false (s ++ rest) = s.length := by
  obtain ⟨hchars, hcolons⟩ := hs
  induction s with
  | nil => exact hrest
  | cons c s ih =>
    obtain ⟨hc, hlater⟩ := List.forall_mem_cons.mp hchars
    rw [colonsHold, Bool.and_eq_true] at hcolons
    obtain ⟨hcolon, hcolons⟩ := hcolons
    have hne : ∀ {d : Char}, runsOn d = false → c ≠ d := ne_of_eq_true hc
    have hend : ¬(c = '\n' ∨ c = '\r' ∨ c = '\t') := by
      rintro (h | h | h) <;> exact hne (by decide) h
    have hkey : isColon false (c :: (s ++ rest)) = false := by
      unfold isColon
      split
      · rename_i after heq
        obtain ⟨rfl, rfl⟩ := List.cons.inj heq
        cases s with
        | nil => exact absurd hcolon (by simp)
        | cons d s =>
          have hd : d.isDigit = true := by simpa using hcolon
          have hblank : ∀ {e : Char}, e.isDigit = false → d ≠ e := ne_of_eq_true hd
          simp [isSeparator, hblank]
      · rfl
    have hcomment : ¬(c = ' ' ∧ (s ++ rest).head? = some '#') := by
      rintro ⟨_, hhead⟩
      cases s with
      | nil => exact hhash hhead
      | cons d s =>
        have hd := (List.forall_mem_cons.mp hlater).1
        exact absurd (Option.some.inj hhead) (ne_of_eq_true hd (by decide))
    rw [List.cons_append, plainLength, if_neg hend, hkey, ih hlater hcolons, if_neg hcomment]
    simp [Nat.add_comm]

theorem withoutTrailingBlanks_eq {s : List Char} (h : s.getLast? ≠ some ' ') :
    withoutTrailingBlanks s = s := by
  have hkeep : s.reverse.dropWhile (· = ' ') = s.reverse := by
    rw [← List.head?_reverse] at h
    cases hs : s.reverse with
    | nil => rfl
    | cons c rest =>
      rw [hs, List.head?_cons] at h
      exact List.dropWhile_cons_of_neg (by simpa using h)
  rw [withoutTrailingBlanks, hkeep, List.reverse_reverse]

/-- A scalar that may stand on a line of its own is read whole. -/
theorem plainLine_eq {s rest : List Char} {c : Cursor} (hc : c.rest = s ++ rest) (hs : Inline s)
    (hlast : s.getLast? ≠ some ' ') (hrest : plainLength false rest = 0)
    (hhash : rest.head? ≠ some '#') :
    plainLine false c = (s, c.skip s.length) ∧ (c.skip s.length).rest = rest := by
  refine ⟨?_, by rw [Cursor.skip_rest, hc, List.drop_left]⟩
  unfold plainLine
  rw [hc, plainLength_append hs hrest hhash, List.take_left, withoutTrailingBlanks_eq hlast]

/-! ## Where a plain scalar starts -/

/-- The marks with which neither a plain scalar nor its line may begin. -/
def openingMarks : List Char :=
  [' ', '\t', '\n', '\r', '#', '"', Char.ofNat 39, '[', '\x7b']

theorem not_mem_openingMarks {c : Char} {rest : List Char}
    (h : startsPlain false (c :: rest) = true) : c ∉ openingMarks := by
  intro hmem
  simp only [openingMarks, List.mem_cons, List.not_mem_nil, or_false] at hmem
  rcases hmem with rfl | rfl | rfl | rfl | rfl | rfl | rfl | rfl | rfl <;>
    exact Bool.false_ne_true h

/-- A sign and a digit begin a plain scalar, as a digit does. -/
theorem startsPlain_of_digit {sign : List Char} {d : Char} (hsign : sign ∈ signs)
    (hd : d.isDigit = true) (rest : List Char) :
    startsPlain false (sign ++ d :: rest) = true := by
  have hne : ∀ {e : Char}, e.isDigit = false → d ≠ e := ne_of_eq_true hd
  simp only [signs, List.mem_cons, List.not_mem_nil, or_false] at hsign
  rcases hsign with rfl | rfl | rfl
  · simp [startsPlain, isSeparator, hne]
  · simp [startsPlain, isSeparator, hne]
  · simp [startsPlain, isSeparator]

namespace Cursor

variable {c : Cursor} (h : startsPlain false c.rest = true)

include h

theorem exists_rest : ∃ d rest, c.rest = d :: rest ∧ d ∉ openingMarks := by
  cases hrest : c.rest with
  | nil => rw [hrest] at h; cases h
  | cons d rest =>
    rw [hrest] at h
    exact ⟨d, rest, rfl, not_mem_openingMarks h⟩

theorem skipLine_eq : c.skipLine = c := by
  obtain ⟨d, rest, hrest, hd⟩ := exists_rest h
  simp only [openingMarks, List.mem_cons, not_or] at hd
  simp [skipLine, skip, hrest, hd]

/-- One blank before the scalar is passed over. -/
theorem skipLine_blank {before : Cursor} (hbefore : before.rest = ' ' :: c.rest) :
    before.skipLine.rest = c.rest := by
  obtain ⟨d, rest, hrest, hd⟩ := exists_rest h
  simp only [openingMarks, List.mem_cons, not_or] at hd
  have hnext : before.next.rest = d :: rest := by rw [next_rest, hbefore, hrest]; rfl
  simp [skipLine, skip, hbefore, hrest, hd, hnext]

theorem token_eq : c.token = c := by
  obtain ⟨d, rest, hrest, hd⟩ := exists_rest h
  simp only [openingMarks, List.mem_cons, not_or] at hd
  simp [token, toToken, skipLine_eq h, hrest, hd]

theorem quoted?_eq : quoted? c = none := by
  obtain ⟨d, rest, hrest, hd⟩ := exists_rest h
  simp only [openingMarks, List.mem_cons, not_or] at hd
  simp [quoted?, hrest, hd]

end Cursor

/-- Nothing continues a scalar after the last line. -/
theorem plainLines_eq (least : Nat) (s : List Char) {c : Cursor} (hc : c.rest = ['\n']) :
    plainLines false least 1 s c = (s, c) := by
  obtain ⟨rest, column⟩ := c
  obtain rfl : rest = ['\n'] := hc
  unfold plainLines
  split
  · rfl
  · exact if_pos (.inr (.inr (.inr (.inr rfl))))

/-- A plain scalar up to the last line end of a text is the value of its line. -/
theorem inline_eq {s : List Char} {c : Cursor} (least : Nat) (hc : c.rest = s ++ ['\n'])
    (hs : Inline s) (hlast : s.getLast? ≠ some ' ') (hstart : startsPlain false c.rest = true) :
    ∃ after, inline least c = .ok (.plain s, after) ∧ after.rest = ['\n'] := by
  obtain ⟨hline, hrest⟩ := plainLine_eq hc hs hlast rfl (by decide)
  refine ⟨c.skip s.length, ?_, hrest⟩
  have hplain : plain false least c = (s, c.skip s.length) := by
    unfold plain
    rw [hline]
    dsimp only
    rw [hrest]
    exact plainLines_eq least s hrest
  have hends : ∀ after : Cursor, after.rest = ['\n'] → after.endsLine = true := by
    rintro ⟨_, _⟩ rfl
    rfl
  obtain ⟨d, rest, hd, hmarks⟩ := Cursor.exists_rest hstart
  unfold inline
  extract_lets rest
  split
  · rename_i hbracket
    exact absurd (List.head_eq_of_cons_eq (hd.symm.trans hbracket) ▸ hmarks) (by decide)
  · rename_i hbrace
    exact absurd (List.head_eq_of_cons_eq (hd.symm.trans hbrace) ▸ hmarks) (by decide)
  · rw [Cursor.quoted?_eq hstart]
    dsimp only
    rw [if_pos hstart, hplain]
    exact if_pos (hends _ hrest)

/-! ## Fields -/

/-- A key is found up to its colon. -/
theorem key?_eq {s rest : List Char} {c : Cursor} (hc : c.rest = s ++ ':' :: ' ' :: rest)
    (hs : Inline s) (hlast : s.getLast? ≠ some ' ') (hstart : startsPlain false c.rest = true) :
    ∃ after, key? c = .ok (some (.plain s, after)) ∧ after.rest = ' ' :: rest := by
  obtain ⟨hline, hrest⟩ := plainLine_eq hc hs hlast rfl (by simp)
  have hcolon : ∀ after : Cursor, after.rest = ':' :: ' ' :: rest →
      after.skip (after.rest.takeWhile (· = ' ')).length = after := by
    rintro ⟨_, _⟩ rfl
    rfl
  refine ⟨(c.skip s.length).next, ?_, by rw [Cursor.next_rest, hrest]; rfl⟩
  unfold key?
  rw [Cursor.quoted?_eq hstart]
  dsimp only
  rw [if_pos hstart, hline]
  dsimp only
  rw [hcolon _ hrest, hrest]
  rfl

/-- What follows the last line end is no entry. -/
theorem token_atEnd {c : Cursor} (hc : c.rest = ['\n']) : c.token.atEnd = true := by
  obtain ⟨rest, column⟩ := c
  obtain rfl : rest = ['\n'] := hc
  rfl

/-- Key and value on one line are the only entry of a record. -/
theorem blockEntries_eq {s word : List Char} {c : Cursor} (fuel : Nat)
    (hc : c.rest = s ++ ':' :: ' ' :: (word ++ ['\n'])) (hs : Inline s)
    (hlast : s.getLast? ≠ some ' ') (hstart : startsPlain false c.rest = true)
    (hword : Inline word) (hend : word.getLast? ≠ some ' ')
    (hvalue : startsPlain false (word ++ ['\n']) = true) :
    ∃ after, blockEntries (fuel + 1) 0 [] c = .ok (.record [(.plain s, .plain word)], after) ∧
      after.atEnd = true := by
  obtain ⟨colon, hkey, hcolon⟩ := key?_eq hc hs hlast hstart
  have hbefore : colon.skipLine.rest = word ++ ['\n'] :=
    Cursor.skipLine_blank (c := ⟨word ++ ['\n'], 0⟩) hvalue hcolon
  have hline : colon.endsLine = false := by
    obtain ⟨d, rest, hd, hmarks⟩ := Cursor.exists_rest (hbefore ▸ hvalue)
    simp only [openingMarks, List.mem_cons, not_or] at hmarks
    rw [Cursor.endsLine, hd]
    simp [hmarks]
  obtain ⟨after, hinline, hafter⟩ := inline_eq 1 hbefore hword hend (hbefore ▸ hvalue)
  have hatEnd := token_atEnd hafter
  refine ⟨after.token, ?_, hatEnd⟩
  unfold blockEntries
  rw [hkey]
  dsimp only [Bind.bind, Except.bind]
  rw [hline, if_neg Bool.false_ne_true, hinline]
  exact if_pos (.inl hatEnd)

/-! ## Versions -/

/-- The name of the field for the version. -/
def versionKey : List Char :=
  ['s', 'c', 'h', 'e', 'm', 'a', '_', 'v', 'e', 'r', 's', 'i', 'o', 'n']

/-- The beginning of a snapshot that declares only its version. -/
def versionStart (word : List Char) : Cursor := ⟨versionKey ++ ':' :: ' ' :: (word ++ ['\n']), 0⟩

theorem inline_versionKey : Inline versionKey := ⟨List.all_eq_true.mp rfl, rfl⟩

theorem versionText_toList (word : List Char) :
    (versionText word).toList = (versionStart word).rest := by
  calc (versionText word).toList
      = ("schema_version: " ++ String.ofList word ++ "\n").toList := rfl
    _ = (versionStart word).rest := by
      simp [String.toList_append, versionStart, versionKey]

theorem all_isAdmitted_versionStart {word : List Char} (hword : Inline word) :
    (versionStart word).rest.all isAdmitted = true := by
  have hadmits : ∀ {s}, Inline s → s.all isAdmitted = true := fun hs =>
    List.all_eq_true.mpr fun c hc => (Bool.and_eq_true _ _ ▸ hs.chars c hc).1
  have hmarks : isAdmitted ':' = true ∧ isAdmitted ' ' = true ∧ isAdmitted '\n' = true := by decide
  simp [versionStart, hadmits inline_versionKey, hadmits hword, hmarks]

theorem startsPlain_versionStart (word : List Char) :
    startsPlain false (versionStart word).rest = true := rfl

/-- The text is a block of entries. -/
theorem block_versionStart (fuel : Nat) (word : List Char) :
    block (fuel + 1) 0 (versionStart word) = blockEntries fuel 0 [] (versionStart word) := by
  have hstart := startsPlain_versionStart word
  obtain ⟨after, hkey, _⟩ := key?_eq (c := versionStart word) rfl inline_versionKey (by decide)
    hstart
  unfold block
  dsimp only
  rw [Cursor.token_eq hstart, hkey]
  rfl

/-- A version that no mark of the notation breaks is the only entry of the snapshot. -/
theorem compose_versionText {word : List Char} (hword : Inline word)
    (hend : word.getLast? ≠ some ' ') (hvalue : startsPlain false (word ++ ['\n']) = true) :
    compose (versionText word) = .ok (.record [(.plain versionKey, .plain word)]) := by
  obtain ⟨after, hentries, hatEnd⟩ := blockEntries_eq (c := versionStart word)
    (4 * (versionStart word).rest.length + 6) rfl inline_versionKey (by decide)
    (startsPlain_versionStart word) hword hend hvalue
  have hcloses : closes after = true := by
    obtain ⟨rest, column⟩ := after
    obtain rfl : rest = [] := List.isEmpty_iff.mp hatEnd
    rfl
  have hread : block (4 * (withoutMark (versionStart word).rest).length + 8) 0
      (opening (Cursor.token ⟨withoutMark (versionStart word).rest, 0⟩)) =
        .ok (.record [(.plain versionKey, .plain word)], after) :=
    (block_versionStart _ word).trans hentries
  unfold compose
  rw [versionText_toList, all_isAdmitted_versionStart hword]
  dsimp only
  rw [hread]
  exact if_pos hcloses

/-- A version that deceives is refused for its reason. -/
theorem read_versionText {word : List Char} {reason : String} (h : Deceptive word reason) :
    read (versionText word) = .error (.scalar reason) := by
  obtain ⟨sign, hsign, d, rest, hstart, hd⟩ := h.start
  have hvalue : startsPlain false (word ++ ['\n']) = true := by
    rw [hstart, List.append_assoc, List.cons_append]
    exact startsPlain_of_digit hsign hd _
  unfold read
  rw [compose_versionText h.inline h.getLast?_ne hvalue]
  have hkey : plainKey versionKey = .ok "schema_version" := rfl
  have hconvert : convert 0 (.record [(.plain versionKey, .plain word)]) =
      .error ⟨1, .scalar reason⟩ := by
    simp only [convert, convertFields, Node.name, hkey, scalar_eq_error h]
    rfl
  dsimp only [Bind.bind, Except.bind]
  rw [hconvert]
  rfl

end EntityAtlas.Markup
