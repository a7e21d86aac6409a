import RepoWitness.ScipWireModel

namespace RepoWitness

/-!
# Source positions and byte offsets

A source is a sequence of lines, each ended by a newline with an optional
carriage return before it, the last one by the end of the source.  A position
names a character boundary of one line by the units before it; every encoding
gives a boundary the same byte offset, and offsets grow with positions.
-/

/--
Line `number` of a source: the text of all lines before it and its own
characters without the terminator.
-/
inductive SourceLine : Text → Nat → Text → Text → Prop where
  | last {line : Text} (single : '\n' ∉ line) : SourceLine line 0 [] line
  | lineFeed {line rest : Text} (single : '\n' ∉ line) (bare : line.getLast? ≠ some '\r') :
      SourceLine (line ++ '\n' :: rest) 0 [] line
  | carriageReturn {line rest : Text} (single : '\n' ∉ line) :
      SourceLine (line ++ ['\r'] ++ '\n' :: rest) 0 [] line
  | following {body rest preceding line : Text} {number : Nat} (single : '\n' ∉ body)
      (later : SourceLine rest number preceding line) :
      SourceLine (body ++ '\n' :: rest) (number + 1) (body ++ '\n' :: preceding) line

def unitCount : ScipWirePositionEncoding → Char → Nat
  | .utf8, character => character.utf8Size
  | .utf16, character => lenUtf16 character
  | .utf32, _ => 1

/-- The units of a text. -/
def units (encoding : ScipWirePositionEncoding) (text : Text) : Nat :=
  (text.map (unitCount encoding)).sum

structure Names (source : Text) (encoding : ScipWirePositionEncoding)
    (position : ScipWireSourcePosition) (preceding before : Text) : Prop where
  boundary : ∃ line, SourceLine source position.line preceding line ∧ before <+: line
  counted : units encoding before = position.character

def ScipWireSourcePosition.Precedes (first second : ScipWireSourcePosition) : Prop :=
  first.line < second.line ∨ first.line = second.line ∧ first.character < second.character

/-! ## Lines -/

section Lines

variable {source line preceding body rest : Text} {number : Nat}

theorem splitInclusive_terminated (single : '\n' ∉ body) (rest : Text) :
    Text.splitInclusive '\n' (body ++ '\n' :: rest) =
      (body ++ ['\n']) :: Text.splitInclusive '\n' rest := by
  induction body with
  | nil => rfl
  | cons first body hypothesis =>
    rw [List.mem_cons, not_or] at single
    rw [List.cons_append, Text.splitInclusive, if_neg (Ne.symm single.1),
      hypothesis single.2]
    rfl

theorem splitInclusive_last (single : '\n' ∉ body) (nonempty : body ≠ []) :
    Text.splitInclusive '\n' body = [body] := by
  induction body with
  | nil => exact absurd rfl nonempty
  | cons first body hypothesis =>
    rw [List.mem_cons, not_or] at single
    rw [Text.splitInclusive, if_neg (Ne.symm single.1)]
    by_cases alone : body = []
    · subst alone
      rfl
    · rw [hypothesis single.2 alone]

theorem stripSuffix_append (text pattern : Text) :
    Text.stripSuffix pattern (text ++ pattern) = some text := by
  rw [Text.stripSuffix, if_pos (List.isSuffixOf_iff_suffix.mpr (List.suffix_append _ _))]
  simp

theorem stripTerminator_eq_iff : Text.stripTerminator (body ++ ['\n']) = line ↔
      body = line ++ ['\r'] ∨ body = line ∧ line.getLast? ≠ some '\r' := by
  unfold Text.stripTerminator
  by_cases returned : body.getLast? = some '\r'
  · obtain ⟨text, rfl⟩ := List.getLast?_eq_some_iff.mp returned
    rw [List.append_assoc, List.singleton_append, stripSuffix_append]
    constructor
    · rintro rfl
      exact .inl rfl
    · rintro (same | ⟨rfl, bare⟩)
      · exact List.append_cancel_right same
      · exact absurd returned bare
  · have unreturned : Text.stripSuffix ['\r', '\n'] (body ++ ['\n']) = none := by
      rw [Text.stripSuffix, if_neg]
      rw [List.isSuffixOf_iff_suffix]
      rintro ⟨text, same⟩
      rw [← List.singleton_append, ← List.append_assoc] at same
      exact returned (by rw [← List.append_cancel_right same]; simp)
    rw [unreturned, Option.none_or, stripSuffix_append]
    constructor
    · rintro rfl
      exact .inr ⟨rfl, returned⟩
    · rintro (rfl | ⟨rfl, -⟩)
      · exact absurd (by simp) returned
      · rfl

theorem firstNewline_unique {first second firstRest secondRest : Text} (firstSingle : '\n' ∉ first)
    (secondSingle : '\n' ∉ second)
    (same : first ++ '\n' :: firstRest = second ++ '\n' :: secondRest) :
    first = second ∧ firstRest = secondRest := by
  have texts := congrArg (List.takeWhile (· ≠ '\n')) same
  rw [List.takeWhile_append_of_pos (by aesop), List.takeWhile_append_of_pos (by aesop)] at texts
  obtain rfl : first = second := by simpa using texts
  exact ⟨rfl, (List.cons.inj (List.append_cancel_left same)).2⟩

theorem stripTerminator_single (single : '\n' ∉ line) : Text.stripTerminator line = line := by
  have unterminated (pattern : Text) (newline : '\n' ∈ pattern) :
      Text.stripSuffix pattern line = none := by
    rw [Text.stripSuffix, if_neg]
    rw [List.isSuffixOf_iff_suffix]
    exact fun suffix => single (suffix.subset newline)
  rw [Text.stripTerminator, unterminated _ (by decide), unterminated _ (by decide)]
  rfl

theorem sourceLine_terminated_iff (single : '\n' ∉ body) :
    SourceLine (body ++ '\n' :: rest) number preceding line ↔
      (number = 0 ∧ preceding = [] ∧ Text.stripTerminator (body ++ ['\n']) = line) ∨
      ∃ later before, number = later + 1 ∧ preceding = body ++ '\n' :: before ∧
        SourceLine rest later before line := by
  rw [stripTerminator_eq_iff]
  constructor
  · intro isLine
    generalize whole : body ++ '\n' :: rest = text at isLine
    cases isLine with
    | last single => exact absurd (by rw [← whole]; simp) single
    | lineFeed otherSingle bare =>
      obtain ⟨rfl, -⟩ := firstNewline_unique single otherSingle whole
      exact .inl ⟨rfl, rfl, .inr ⟨rfl, bare⟩⟩
    | carriageReturn otherSingle =>
      have returned : '\n' ∉ line ++ ['\r'] := by simpa using otherSingle
      obtain ⟨rfl, -⟩ := firstNewline_unique single returned whole
      exact .inl ⟨rfl, rfl, .inl rfl⟩
    | following otherSingle later =>
      obtain ⟨rfl, rfl⟩ := firstNewline_unique single otherSingle whole
      exact .inr ⟨_, _, rfl, rfl, later⟩
  · rintro (⟨rfl, rfl, rfl | ⟨rfl, bare⟩⟩ | ⟨later, before, rfl, rfl, isLine⟩)
    · exact .carriageReturn fun isNewline => single (List.mem_append_left _ isNewline)
    · exact .lineFeed single bare
    · exact .following single isLine

theorem sourceLine_last_iff (single : '\n' ∉ body) :
    SourceLine body number preceding line ↔ number = 0 ∧ preceding = [] ∧ line = body := by
  constructor
  · intro isLine
    cases isLine with
    | last => exact ⟨rfl, rfl, rfl⟩
    | lineFeed | carriageReturn | following => simp at single
  · rintro ⟨rfl, rfl, rfl⟩
    exact .last single

/-- A text is one line, or goes on after its first newline. -/
theorem firstNewline (text : Text) :
    '\n' ∉ text ∨ ∃ body rest, '\n' ∉ body ∧ text = body ++ '\n' :: rest := by
  by_cases occurs : '\n' ∈ text
  · obtain ⟨body, rest, whole, single⟩ := List.eq_append_cons_of_mem occurs
    exact .inr ⟨body, rest, single, whole⟩
  · exact .inl occurs

variable {requested offset : Nat}

/-- The loop finds the requested line among the lines that are left. -/
theorem sourceLineFrom_eq_ok_iff {terminated : Bool} {index start : Nat}
    (ends : terminated = true ↔ rest = [] ∨ rest.getLast? = some '\n') :
    sourceLineFrom terminated requested index start (Text.splitInclusive '\n' rest) =
        .ok (offset, line) ↔
      ∃ number preceding, SourceLine rest number preceding line ∧ requested = index + number ∧
        offset = start + Text.byteLength preceding := by
  induction size : rest.length using Nat.strong_induction_on generalizing rest index start with
  | _ bound hypothesis =>
  rcases firstNewline rest with single | ⟨body, later, single, rfl⟩
  · -- The last line: an empty one is only there after a terminated line.
    by_cases empty : rest = []
    · subst empty
      simp only [sourceLine_last_iff single, Text.splitInclusive, sourceLineFrom]
      rw [if_congr (and_iff_right (ends.mpr (.inl rfl))) rfl rfl]
      constructor
      · intro found
        split at found
        next reached =>
          cases found
          exact ⟨0, [], ⟨rfl, rfl, rfl⟩, reached, rfl⟩
        next => cases found
      · rintro ⟨number, preceding, ⟨rfl, rfl, rfl⟩, rfl, rfl⟩
        exact if_pos rfl
    · have unterminated : terminated = false := by
        rw [Bool.eq_false_iff, Ne, ends, not_or]
        exact ⟨empty, fun newline => single (List.mem_of_getLast? newline)⟩
      subst unterminated
      simp only [sourceLine_last_iff single, splitInclusive_last single empty, sourceLineFrom]
      rw [stripTerminator_single single]
      constructor
      · intro found
        split at found
        next reached =>
          cases found
          exact ⟨0, [], ⟨rfl, rfl, rfl⟩, reached.symm, rfl⟩
        next => simp at found
      · rintro ⟨number, preceding, ⟨rfl, rfl, rfl⟩, rfl, rfl⟩
        exact if_pos rfl
  · have endsLater : terminated = true ↔ later = [] ∨ later.getLast? = some '\n' := by
      rw [ends]
      cases later <;> simp
    have shorter : later.length < bound := by
      rw [← size, List.length_append, List.length_cons]
      omega
    simp only [sourceLine_terminated_iff single, splitInclusive_terminated single, sourceLineFrom]
    by_cases reached : index = requested
    · rw [if_pos reached]
      constructor
      · rintro ⟨⟩
        exact ⟨0, [], .inl ⟨rfl, rfl, rfl⟩, reached.symm, rfl⟩
      · rintro ⟨number, preceding, ⟨rfl, rfl, rfl⟩ | ⟨more, before, rfl, -⟩, requestedAt, rfl⟩
        · rfl
        · omega
    · rw [if_neg reached, hypothesis _ shorter endsLater rfl]
      constructor
      · rintro ⟨number, before, isLine, requestedAt, rfl⟩
        refine ⟨number + 1, _, .inr ⟨number, before, rfl, rfl, isLine⟩, by omega, ?_⟩
        rw [List.append_cons _ _ before, Text.byteLength_append _ before, Nat.add_assoc]
      · rintro ⟨number, preceding, ⟨rfl, -⟩ | ⟨more, before, rfl, rfl, isLine⟩, requestedAt, rfl⟩
        · exact absurd requestedAt.symm reached
        · refine ⟨more, before, isLine, by omega, ?_⟩
          rw [List.append_cons _ _ before, Text.byteLength_append _ before, Nat.add_assoc]

theorem sourceLine_eq_ok_iff : sourceLine source requested = .ok (offset, line) ↔
      ∃ preceding, SourceLine source requested preceding line ∧
        offset = Text.byteLength preceding := by
  rw [sourceLine]
  by_cases empty : source = []
  · subst empty
    simp only [sourceLine_last_iff List.not_mem_nil, if_true]
    constructor
    · intro found
      split at found
      next zero =>
        cases found
        exact ⟨[], ⟨zero, rfl, rfl⟩, rfl⟩
      next => cases found
    · rintro ⟨preceding, ⟨rfl, rfl, rfl⟩, rfl⟩
      rfl
  · rw [if_neg empty, sourceLineFrom_eq_ok_iff (by simp [empty])]
    constructor
    · rintro ⟨number, preceding, isLine, rfl, rfl⟩
      exact ⟨preceding, by rwa [Nat.zero_add], Nat.zero_add _⟩
    · rintro ⟨preceding, isLine, rfl⟩
      exact ⟨requested, preceding, isLine, (Nat.zero_add _).symm, (Nat.zero_add _).symm⟩

theorem SourceLine.ends_before {later : Nat} {laterPreceding laterLine : Text}
    (isLine : SourceLine source number preceding line)
    (isLater : SourceLine source later laterPreceding laterLine) (before : number < later) :
    Text.byteLength preceding + Text.byteLength line < Text.byteLength laterPreceding := by
  have newline (body between : Text) :
      Text.byteLength (body ++ '\n' :: between) =
        Text.byteLength body + 1 + Text.byteLength between := by
    rw [List.append_cons, Text.byteLength_append, Text.byteLength_append]
    rfl
  induction isLine generalizing later laterPreceding with
  | last single =>
    obtain ⟨rfl, -⟩ := (sourceLine_last_iff single).mp isLater
    cases before
  | lineFeed single =>
    obtain ⟨rfl, -⟩ | ⟨more, between, -, rfl, -⟩ :=
      (sourceLine_terminated_iff single).mp isLater
    · cases before
    · rw [newline]
      change 0 + _ < _
      omega
  | carriageReturn single =>
    obtain ⟨rfl, -⟩ | ⟨more, between, -, rfl, -⟩ :=
      (sourceLine_terminated_iff (by simpa using single)).mp isLater
    · cases before
    · rw [newline, Text.byteLength_append]
      change 0 + _ < _
      omega
  | following single _ hypothesis =>
    obtain ⟨rfl, -⟩ | ⟨more, between, rfl, rfl, isMore⟩ :=
      (sourceLine_terminated_iff single).mp isLater
    · cases before
    · have earlier := hypothesis isMore (Nat.lt_of_succ_lt_succ before)
      rw [newline, newline]
      omega

end Lines

/-! ## Characters -/

section Characters

variable {line : Text} {encoding : ScipWirePositionEncoding}

theorem unitCount_pos (encoding : ScipWirePositionEncoding) (character : Char) :
    0 < unitCount encoding character := by
  cases encoding with
  | utf8 => exact Char.utf8Size_pos character
  | utf16 =>
    simp only [unitCount, lenUtf16]
    split <;> decide
  | utf32 => exact Nat.one_pos

theorem units_cons (encoding : ScipWirePositionEncoding) (character : Char) (text : Text) :
    units encoding (character :: text) = unitCount encoding character + units encoding text := rfl

/-- Within a line the units of its boundaries grow. -/
theorem units_append_lt (encoding : ScipWirePositionEncoding) (before : Text) {between : Text}
    (nonempty : between ≠ []) : units encoding before < units encoding (before ++ between) := by
  obtain ⟨character, rest, rfl⟩ := List.exists_cons_of_ne_nil nonempty
  rw [units, units, List.map_append, List.sum_append]
  have positive := unitCount_pos encoding character
  simp only [List.map_cons, List.sum_cons]
  omega

/-- The loop stops at the boundary with the requested units, if the line has one. -/
theorem unitOffsetFrom_eq_ok_iff {requested counted start offset : Nat} :
    unitOffsetFrom (unitCount encoding) requested counted start line = .ok offset ↔
      ∃ before, before <+: line ∧ counted + units encoding before = requested ∧
        start + Text.byteLength before = offset := by
  induction line generalizing counted start with
  | nil =>
    simp only [unitOffsetFrom, List.prefix_nil]
    constructor
    · intro found
      split at found
      next reached =>
        cases found
        exact ⟨[], rfl, reached, rfl⟩
      next => cases found
    · rintro ⟨before, rfl, rfl, rfl⟩
      exact if_pos rfl
  | cons character line hypothesis =>
    rw [unitOffsetFrom]
    have positive := unitCount_pos encoding character
    split
    case isTrue reached =>
        constructor
        · rintro ⟨⟩
          exact ⟨[], List.nil_prefix, reached, rfl⟩
        · rintro ⟨before, isPrefix, rfl, rfl⟩
          cases before with
          | nil => rfl
          | cons first before =>
            obtain ⟨rfl, -⟩ := List.cons_prefix_cons.mp isPrefix
            rw [units_cons] at reached
            omega
    case isFalse unreached =>
        have afterFirst : (∃ before, before <+: character :: line ∧
                counted + units encoding before = requested ∧
                start + Text.byteLength before = offset) ↔
              ∃ before, before <+: line ∧
                counted + unitCount encoding character + units encoding before = requested ∧
                start + character.utf8Size + Text.byteLength before = offset := by
          constructor
          · rintro ⟨before, isPrefix, rfl, rfl⟩
            cases before with
            | nil => exact absurd rfl unreached
            | cons first before =>
              obtain ⟨rfl, within⟩ := List.cons_prefix_cons.mp isPrefix
              exact ⟨before, within, Nat.add_assoc _ _ _, Nat.add_assoc _ _ _⟩
          · rintro ⟨before, isPrefix, rfl, rfl⟩
            exact ⟨character :: before, List.cons_prefix_cons.mpr ⟨rfl, isPrefix⟩,
              (Nat.add_assoc _ _ _).symm, (Nat.add_assoc _ _ _).symm⟩
        rw [afterFirst]
        split
        case isTrue beyond =>
            refine iff_of_false (by simp) ?_
            rintro ⟨before, -, rfl, -⟩
            omega
        case isFalse => exact hypothesis

theorem lineCharacterToByteOffset_eq_ok_iff {character offset : Nat} :
    lineCharacterToByteOffset line character encoding = .ok offset ↔
      ∃ before, before <+: line ∧ units encoding before = character ∧
        Text.byteLength before = offset := by
  cases encoding with
  | utf8 =>
    rw [lineCharacterToByteOffset]
    constructor
    · intro found
      split at found
      next => cases found
      next within =>
        cases found
        obtain ⟨before, after, rfl, size⟩ :=
          (Text.isCharBoundary_iff _ _).mp (not_not.mp (not_or.mp within).2)
        exact ⟨before, List.prefix_append _ _, size, size⟩
    · rintro ⟨before, ⟨after, rfl⟩, rfl, rfl⟩
      have boundary : Text.CharBoundary (before ++ after) (Text.byteLength before) :=
        ⟨before, after, rfl, rfl⟩
      exact if_neg (not_or.mpr ⟨Nat.not_lt.mpr boundary.le,
        not_not.mpr ((Text.isCharBoundary_iff _ _).mpr boundary)⟩)
  | utf16 =>
    have counted := @unitOffsetFrom_eq_ok_iff line .utf16 character 0 0 offset
    simp only [Nat.zero_add] at counted
    exact counted
  | utf32 =>
    have counted := @unitOffsetFrom_eq_ok_iff line .utf32 character 0 0 offset
    simp only [Nat.zero_add] at counted
    exact counted

end Characters

/-! ## Positions -/

section Positions

variable {source preceding before : Text} {encoding : ScipWirePositionEncoding}
  {position first second : ScipWireSourcePosition} {offset firstOffset secondOffset : Nat}

theorem sourcePositionToByteOffset_eq_ok_iff :
    sourcePositionToByteOffset source position encoding = .ok offset ↔
      ∃ preceding before, Names source encoding position preceding before ∧
        offset = Text.byteLength preceding + Text.byteLength before := by
  constructor
  · intro accepted
    simp only [sourcePositionToByteOffset, bind, Except.bind] at accepted
    split at accepted
    next => cases accepted
    next lineFound found =>
      split at accepted
      next => cases accepted
      next relative foundCharacter =>
        cases accepted
        obtain ⟨preceding, isLine, start⟩ := sourceLine_eq_ok_iff.mp found
        obtain ⟨before, isPrefix, counted, rfl⟩ :=
          lineCharacterToByteOffset_eq_ok_iff.mp foundCharacter
        exact ⟨preceding, before, ⟨⟨_, isLine, isPrefix⟩, counted⟩, by rw [start]⟩
  · rintro ⟨preceding, before, ⟨⟨line, isLine, isPrefix⟩, counted⟩, rfl⟩
    have found := sourceLine_eq_ok_iff.mpr ⟨preceding, isLine, rfl⟩
    have foundCharacter :=
      lineCharacterToByteOffset_eq_ok_iff.mpr ⟨before, isPrefix, counted, rfl⟩
    simp only [sourcePositionToByteOffset, bind, Except.bind, found, foundCharacter]

theorem offset_lt_of_precedes
    (firstAccepted : sourcePositionToByteOffset source first encoding = .ok firstOffset)
    (secondAccepted : sourcePositionToByteOffset source second encoding = .ok secondOffset)
    (precedes : first.Precedes second) : firstOffset < secondOffset := by
  obtain ⟨firstPreceding, firstBefore, ⟨⟨firstLine, isFirst, firstPrefix⟩, firstCounted⟩, rfl⟩ :=
    sourcePositionToByteOffset_eq_ok_iff.mp firstAccepted
  obtain ⟨secondPreceding, secondBefore, ⟨⟨secondLine, isSecond, secondPrefix⟩, secondCounted⟩,
    rfl⟩ := sourcePositionToByteOffset_eq_ok_iff.mp secondAccepted
  rcases precedes with earlier | ⟨sameLine, fewer⟩
  · obtain ⟨after, rfl⟩ := firstPrefix
    have ends := isFirst.ends_before isSecond earlier
    rw [Text.byteLength_append] at ends
    omega
  · rw [sameLine] at isFirst
    have found := sourceLine_eq_ok_iff.mpr ⟨firstPreceding, isFirst, rfl⟩
    rw [sourceLine_eq_ok_iff.mpr ⟨secondPreceding, isSecond, rfl⟩] at found
    obtain ⟨sameStart, rfl⟩ := Prod.mk.inj (Except.ok.inj found)
    rw [← firstCounted, ← secondCounted] at fewer
    -- Of two boundaries of one line one has the other's characters before it.
    rcases List.prefix_or_prefix_of_prefix firstPrefix secondPrefix with
      ⟨between, rfl⟩ | ⟨between, rfl⟩
    · have nonempty : between ≠ [] := by
        rintro rfl
        simp at fewer
      have longer : Text.byteLength firstBefore < Text.byteLength (firstBefore ++ between) :=
        units_append_lt .utf8 firstBefore nonempty
      omega
    · by_cases empty : between = []
      · subst empty
        simp at fewer
      · have more := units_append_lt encoding secondBefore empty
        omega

theorem ScipWireSourcePosition.precedes_or_eq_or_precedes (first second : ScipWireSourcePosition) :
    first.Precedes second ∨ first = second ∨ second.Precedes first := by
  obtain ⟨firstLine, firstCharacter⟩ := first
  obtain ⟨secondLine, secondCharacter⟩ := second
  simp only [ScipWireSourcePosition.Precedes, ScipWireSourcePosition.mk.injEq]
  omega

theorem offset_le_iff
    (firstAccepted : sourcePositionToByteOffset source first encoding = .ok firstOffset)
    (secondAccepted : sourcePositionToByteOffset source second encoding = .ok secondOffset) :
    firstOffset ≤ secondOffset ↔ ¬second.Precedes first := by
  constructor
  · intro ordered precedes
    exact Nat.not_lt.mpr ordered (offset_lt_of_precedes secondAccepted firstAccepted precedes)
  · intro unordered
    rcases first.precedes_or_eq_or_precedes second with precedes | rfl | precedes
    · exact Nat.le_of_lt (offset_lt_of_precedes firstAccepted secondAccepted precedes)
    · rw [firstAccepted] at secondAccepted
      exact Nat.le_of_eq (Except.ok.inj secondAccepted)
    · exact absurd precedes unordered

theorem position_eq_of_offset_eq
    (firstAccepted : sourcePositionToByteOffset source first encoding = .ok offset)
    (secondAccepted : sourcePositionToByteOffset source second encoding = .ok offset) :
    first = second := by
  rcases first.precedes_or_eq_or_precedes second with precedes | same | precedes
  · exact absurd (offset_lt_of_precedes firstAccepted secondAccepted precedes) (Nat.lt_irrefl _)
  · exact same
  · exact absurd (offset_lt_of_precedes secondAccepted firstAccepted precedes) (Nat.lt_irrefl _)

/-- A range is accepted with the offsets of its ends when they are in order. -/
theorem validateScipSourceRange_eq_ok_iff {range : ScipWireSourceRange} {span : ByteSpan} :
    validateScipSourceRange range encoding (Text.encodeUtf8 source) = .ok span ↔
      sourcePositionToByteOffset source range.start encoding = .ok span.start ∧
      sourcePositionToByteOffset source range.stop encoding = .ok span.stop ∧
      ¬range.stop.Precedes range.start := by
  have decoded : Text.decodeUtf8 (Text.encodeUtf8 source) = some source :=
    Text.decodeUtf8_eq_some_iff.mpr rfl
  simp only [validateScipSourceRange, decoded, bind, Except.bind]
  constructor
  · intro accepted
    split at accepted
    next => cases accepted
    next start startAccepted =>
      split at accepted
      next => cases accepted
      next stop stopAccepted =>
        split at accepted
        next ordered =>
          cases accepted
          exact ⟨startAccepted, stopAccepted,
            (offset_le_iff startAccepted stopAccepted).mp ordered⟩
        next => cases accepted
  · rintro ⟨startAccepted, stopAccepted, -⟩
    simp only [startAccepted, stopAccepted]
    exact dif_pos span.ordered

/--
Positions and byte offsets.  A position is accepted when it names a boundary of
its line, and its offset is the size of the text before that boundary; offsets
follow the positions' order, which is what a range needs; and a boundary has the
same offset in every encoding.
-/
theorem source_positions_exact (source : Text) (encoding : ScipWirePositionEncoding) :
    (∀ position offset,
      sourcePositionToByteOffset source position encoding = .ok offset ↔
        ∃ preceding before, Names source encoding position preceding before ∧
          offset = Text.byteLength preceding + Text.byteLength before) ∧
    (∀ first second firstOffset secondOffset,
      sourcePositionToByteOffset source first encoding = .ok firstOffset →
      sourcePositionToByteOffset source second encoding = .ok secondOffset →
      (first.Precedes second → firstOffset < secondOffset) ∧
      (firstOffset = secondOffset → first = second)) ∧
    (∀ range span,
      validateScipSourceRange range encoding (Text.encodeUtf8 source) = .ok span ↔
        sourcePositionToByteOffset source range.start encoding = .ok span.start ∧
        sourcePositionToByteOffset source range.stop encoding = .ok span.stop ∧
        ¬range.stop.Precedes range.start) ∧
    (∀ range start stop,
      sourcePositionToByteOffset source range.start encoding = .ok start →
      sourcePositionToByteOffset source range.stop encoding = .ok stop →
      ¬range.stop.Precedes range.start →
      ∃ span, validateScipSourceRange range encoding (Text.encodeUtf8 source) = .ok span) ∧
    (∀ otherEncoding position otherPosition preceding before,
      Names source encoding position preceding before →
      Names source otherEncoding otherPosition preceding before →
      ∃ offset, sourcePositionToByteOffset source position encoding = .ok offset ∧
        sourcePositionToByteOffset source otherPosition otherEncoding = .ok offset) := by
  refine ⟨fun _ _ => sourcePositionToByteOffset_eq_ok_iff, ?_,
    fun _ _ => validateScipSourceRange_eq_ok_iff, ?_, ?_⟩
  · intro first second firstOffset secondOffset firstAccepted secondAccepted
    refine ⟨offset_lt_of_precedes firstAccepted secondAccepted, ?_⟩
    rintro rfl
    exact position_eq_of_offset_eq firstAccepted secondAccepted
  · intro range start stop startAccepted stopAccepted unordered
    exact ⟨⟨start, stop, (offset_le_iff startAccepted stopAccepted).mpr unordered⟩,
      validateScipSourceRange_eq_ok_iff.mpr ⟨startAccepted, stopAccepted, unordered⟩⟩
  · intro otherEncoding position otherPosition preceding before names otherNames
    exact ⟨_, sourcePositionToByteOffset_eq_ok_iff.mpr ⟨preceding, before, names, rfl⟩,
      sourcePositionToByteOffset_eq_ok_iff.mpr ⟨preceding, before, otherNames, rfl⟩⟩

end Positions

end RepoWitness
