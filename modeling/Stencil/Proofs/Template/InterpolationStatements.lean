import Stencil.Proofs.Outcome
import Stencil.Proofs.Template.Interpolation
import Stencil.Template.Parse

/-!
# Reading text with references

A name alone is read as itself at every rank of expressions, since the end of the
interpolation ends all of them.  So a plain template is read as a single output statement of
its pieces.
-/

namespace Stencil.Template

open Outcome
open Reader

/-! ## Names as expressions -/

/-- The current token is the end of an interpolation. -/
def AtEnd (cursor : Cursor) : Prop :=
  ∃ last rest, cursor.tokens = last :: rest ∧ last.kind = .interpolationEnd

theorem current_of_tokens {cursor : Cursor} {token : Token} {rest : List Token}
    (tokens : cursor.tokens = token :: rest) : current cursor = .ok token cursor := by
  refine (bind_apply_of_ok (get_apply cursor)).trans ?_
  rw [tokens]
  rfl

theorem current_of_finished {cursor : Cursor} (tokens : cursor.tokens = []) :
    current cursor = .ok ⟨cursor.line, .finish⟩ cursor := by
  refine (bind_apply_of_ok (get_apply cursor)).trans ?_
  rw [tokens]
  rfl

theorem checkBroken_of_intact {cursor : Cursor}
    (intact : ∀ next ∈ cursor.tokens.head?, ∀ fault, next.kind ≠ .broken fault) :
    checkBroken cursor = .ok () cursor := by
  cases tokens : cursor.tokens with
  | nil =>
    exact (bind_apply_of_ok (current_of_finished tokens)).trans rfl
  | cons next more =>
    refine (bind_apply_of_ok (current_of_tokens tokens)).trans ?_
    rw [tokens] at intact
    cases kind : next.kind with
    | broken fault => exact absurd kind (intact next rfl fault)
    | _ => rfl

/-- Taking a token that is not followed by a broken one. -/
theorem advance_of_tokens {cursor : Cursor} {token : Token} {rest : List Token}
    (tokens : cursor.tokens = token :: rest)
    (intact : ∀ next ∈ rest.head?, ∀ fault, next.kind ≠ .broken fault) :
    advance cursor = .ok token { cursor with tokens := rest, line := token.line } := by
  refine (bind_apply_of_ok (current_of_tokens tokens)).trans ?_
  refine (bind_apply_of_ok (modify_apply _ cursor)).trans ?_
  rw [tokens]
  exact (bind_apply_of_ok (checkBroken_of_intact intact)).trans rfl

/-- A repetition whose first step is its last one. -/
theorem untilDone_of_stop {σ : Type} {step : σ → Reader (σ × Bool)} {start final : σ}
    {cursor after : Cursor} (stops : step start cursor = .ok (final, false) after) :
    untilDone step start cursor = .ok final after := by
  refine (bind_apply_of_ok (get_apply cursor)).trans ?_
  exact (bind_apply_of_ok stops).trans rfl

section AtEnd

variable {cursor : Cursor} (atEnd : AtEnd cursor)

include atEnd

theorem AtEnd.current :
    ∃ last, current cursor = .ok last cursor ∧ last.kind = .interpolationEnd := by
  obtain ⟨last, rest, tokens, kind⟩ := atEnd
  exact ⟨last, current_of_tokens tokens, kind⟩

theorem AtEnd.skipName (name : String) : skipName name cursor = .ok false cursor := by
  obtain ⟨last, known, kind⟩ := atEnd.current
  refine (bind_apply_of_ok known).trans ?_
  rw [isName, kind]
  rfl

theorem AtEnd.skipSign (sign : Sign) : skipSign sign cursor = .ok false cursor := by
  obtain ⟨last, known, kind⟩ := atEnd.current
  refine (bind_apply_of_ok known).trans ?_
  rw [isSign, kind]
  rfl

theorem AtEnd.atSign (sign : Sign) : atSign sign cursor = .ok false cursor := by
  obtain ⟨last, known, kind⟩ := atEnd.current
  refine (bind_apply_of_ok known).trans ?_
  rw [isSign, kind]
  rfl

theorem AtEnd.readComparison? : readComparison? cursor = .ok none cursor := by
  obtain ⟨last, known, kind⟩ := atEnd.current
  refine (bind_apply_of_ok known).trans ?_
  rw [kind]
  rfl

end AtEnd

/-- A name and the end of an interpolation come next, of which the name is to be taken. -/
structure NameAhead (name : String) (cursor after : Cursor) : Prop where
  isVariable : IsVariable name
  ahead : ∃ token last rest, cursor.tokens = token :: last :: rest ∧ token.kind = .name name ∧
    last.kind = .interpolationEnd ∧
    after = { cursor with tokens := last :: rest, line := token.line }

namespace NameAhead

variable {name : String} {cursor after : Cursor}

theorem exists_token (ahead : NameAhead name cursor after) :
    ∃ token, current cursor = .ok token cursor ∧ advance cursor = .ok token after ∧
      token.kind = .name name := by
  obtain ⟨token, last, rest, tokens, kind, isEnd, rfl⟩ := ahead.ahead
  refine ⟨token, current_of_tokens tokens, advance_of_tokens tokens ?_, kind⟩
  rintro _ ⟨⟩ fault broken
  cases isEnd.symm.trans broken

theorem atEnd (ahead : NameAhead name cursor after) : AtEnd after := by
  obtain ⟨token, last, rest, -, -, isEnd, rfl⟩ := ahead.ahead
  exact ⟨last, rest, rfl, isEnd⟩

theorem reservedConstant?_eq (ahead : NameAhead name cursor after) :
    reservedConstant? name = none := by
  have free := ahead.isVariable.free
  simp only [ownWords, List.mem_cons, not_or] at free
  simp [reservedConstant?, free]

end NameAhead

/-- A name before the end of an interpolation is taken for itself. -/
def TakesName (reader : Reader Located) : Prop :=
  ∀ name cursor after, NameAhead name cursor after →
    ∃ line, reader cursor = .ok ⟨line, .name name⟩ after

/-- An operand is all there is before the end of an interpolation. -/
def StopsAtEnd (next : Located → Reader Located) : Prop :=
  ∀ located cursor, AtEnd cursor → next located cursor = .ok located cursor

namespace TakesName

variable {reader : Reader Located}

/-- What may follow an operand does not follow a name alone. -/
theorem bind {next : Located → Reader Located} (takes : TakesName reader)
    (stops : StopsAtEnd next) : TakesName (reader >>= next) := by
  intro name cursor after ahead
  obtain ⟨line, read⟩ := takes name cursor after ahead
  exact ⟨line, (bind_apply_of_ok read).trans (stops _ _ ahead.atEnd)⟩

/-- The token in front may be looked at. -/
theorem current_bind {next : Token → Reader Located}
    (takes : ∀ token name, IsVariable name → token.kind = .name name → TakesName (next token)) :
    TakesName (current >>= next) := by
  intro name cursor after ahead
  obtain ⟨token, known, -, kind⟩ := ahead.exists_token
  obtain ⟨line, read⟩ := takes token name ahead.isVariable kind name cursor after ahead
  exact ⟨line, (bind_apply_of_ok known).trans read⟩

end TakesName

section Ranks

variable (readers : Readers)

theorem takesName_readPrimary : TakesName (readPrimary readers) := by
  intro name cursor after ahead
  obtain ⟨token, known, taken, kind⟩ := ahead.exists_token
  refine ⟨token.line, (bind_apply_of_ok known).trans ?_⟩
  rw [kind]
  refine (bind_apply_of_ok taken).trans ?_
  rw [ahead.reservedConstant?_eq]
  rfl

theorem stopsAtEnd_readTrailers : StopsAtEnd (readTrailers readers) := by
  intro operand cursor atEnd
  obtain ⟨last, known, kind⟩ := atEnd.current
  refine untilDone_of_stop ((bind_apply_of_ok known).trans ?_)
  rw [kind]
  rfl

theorem stopsAtEnd_readFilterExpression : StopsAtEnd (readFilterExpression readers) := by
  intro operand cursor atEnd
  obtain ⟨last, known, kind⟩ := atEnd.current
  refine untilDone_of_stop ((bind_apply_of_ok known).trans ?_)
  rw [kind]
  rfl

theorem takesName_readUnary (filtersAllowed : Bool) :
    TakesName (readUnary readers filtersAllowed) :=
  .current_bind fun token name _ kind => by
    have noSign (sign : Sign) : isSign token sign = false := by
      rw [isSign, kind]
    rw [noSign, noSign]
    refine (takesName_readPrimary readers).bind fun operand cursor atEnd => ?_
    refine (bind_apply_of_ok (stopsAtEnd_readTrailers readers operand cursor atEnd)).trans ?_
    cases filtersAllowed with
    | true => exact stopsAtEnd_readFilterExpression readers operand cursor atEnd
    | false => rfl

theorem takesName_readBinary {operator? : Sign → Option BinaryOperator} {reader : Reader Located}
    (takes : TakesName reader) : TakesName (readBinary operator? reader) :=
  takes.bind fun _ _ atEnd => by
    obtain ⟨last, known, kind⟩ := atEnd.current
    refine untilDone_of_stop ((bind_apply_of_ok known).trans ?_)
    rw [kind]
    rfl

theorem takesName_readJoined {word : String}
    {combine : Expression String → Expression String → Expression String}
    {reader : Reader Located} (takes : TakesName reader) :
    TakesName (readJoined word combine reader) :=
  takes.bind fun _ _ atEnd =>
    untilDone_of_stop ((bind_apply_of_ok (atEnd.skipName word)).trans rfl)

variable {readers}

theorem takesName_readProduct (unary : TakesName (readers.unary true)) :
    TakesName (readProduct readers) :=
  takesName_readBinary (takesName_readBinary unary)

theorem takesName_readConcat (unary : TakesName (readers.unary true)) :
    TakesName (readConcat readers) :=
  .current_bind fun _ _ _ _ => (takesName_readProduct unary).bind fun _ _ atEnd =>
    (bind_apply_of_ok (untilDone_of_stop
      ((bind_apply_of_ok (atEnd.skipSign .tilde)).trans rfl))).trans rfl

theorem takesName_readCompare (unary : TakesName (readers.unary true)) :
    TakesName (readCompare readers) :=
  .current_bind fun _ _ _ _ =>
    (takesName_readBinary (takesName_readConcat unary)).bind fun _ _ atEnd =>
      (bind_apply_of_ok (untilDone_of_stop
        ((bind_apply_of_ok atEnd.readComparison?).trans rfl))).trans rfl

theorem takesName_readNegation (unary : TakesName (readers.unary true)) :
    TakesName (readNegation readers) :=
  .current_bind fun token name isVariable kind => by
    have noNegation : isName token "not" = false := by
      have free := isVariable.free
      simp only [ownWords, List.mem_cons, not_or] at free
      rw [isName, kind]
      simp [free]
    rw [noNegation]
    exact takesName_readCompare unary

theorem takesName_readEither (negation : TakesName readers.negation) :
    TakesName (readEither readers) :=
  takesName_readJoined (takesName_readJoined negation)

theorem takesName_readChoice (negation : TakesName readers.negation) :
    TakesName (readChoice readers) :=
  .current_bind fun _ _ _ _ => (takesName_readEither negation).bind fun _ _ atEnd =>
    (bind_apply_of_ok (untilDone_of_stop
      ((bind_apply_of_ok (atEnd.skipName "if")).trans rfl))).trans rfl

end Ranks

/-- Four levels of nesting are enough for a name. -/
theorem takesName_expression (depth : Nat) :
    TakesName ((readers (depth + 3)).expression true) :=
  takesName_readChoice (takesName_readNegation (takesName_readUnary (readers depth) true))

/-- A name alone is no tuple. -/
theorem takesName_readExpressionTuple {readers : Readers}
    (expression : TakesName (readers.expression true)) :
    TakesName (readExpressionTuple readers true [] false) := by
  intro name cursor after ahead
  obtain ⟨line, read⟩ := expression name cursor after ahead
  obtain ⟨token, known, -, kind⟩ := ahead.exists_token
  have goesOn : atTupleEnd [] cursor = .ok false cursor := by
    refine (bind_apply_of_ok known).trans ?_
    rw [kind]
    rfl
  have items : readTuple (readers.expression true) [] false cursor =
      .ok (token.line, [⟨line, .name name⟩], false) after := by
    refine (bind_apply_of_ok known).trans ((bind_apply_of_ok
      (?_ : untilDone _ _ cursor =
        EStateM.Result.ok (token.line, [⟨line, .name name⟩], false) after)).trans rfl)
    refine untilDone_of_stop ?_
    exact (bind_apply_of_ok goesOn).trans ((bind_apply_of_ok read).trans
      ((bind_apply_of_ok (ahead.atEnd.atSign .comma)).trans rfl))
  exact ⟨line, (bind_apply_of_ok items).trans rfl⟩

/-! ## Statements -/

namespace Interpolated

/-- The part of an output statement that a piece is read as. -/
def Piece.part : Piece → OutputPart
  | .literal text => .data text
  | .reference name => .expression (.name name)

/-- The statements of pieces: one, unless there are none. -/
def statements (pieces : List Piece) : List Statement :=
  if pieces.isEmpty then [] else [.output (pieces.map Piece.part)]

end Interpolated

open Interpolated (Piece statements)

/-- The tokens of pieces are not broken. -/
private theorem intact_of_kinds {tokens : List Token} {pieces : List Piece}
    (kinds : tokens.map Token.kind = pieces.flatMap Piece.kinds) :
    ∀ next ∈ tokens.head?, ∀ fault, next.kind ≠ .broken fault := by
  intro next found fault broken
  have member : .broken fault ∈ pieces.flatMap Piece.kinds := by
    rw [← kinds, ← broken]
    exact List.mem_map_of_mem (List.mem_of_head? found)
  obtain ⟨piece, -, among⟩ := List.mem_flatMap.mp member
  cases piece <;> simp [Piece.kinds] at among

section Parts

variable {readers : Readers} {cursor : Cursor} {rest : List Token}

theorem readPart_data (readers : Readers) (read : StatementsRead) {token : Token}
    {literal : List Char} (tokens : cursor.tokens = token :: rest)
    (kind : token.kind = .data literal)
    (intact : ∀ next ∈ rest.head?, ∀ fault, next.kind ≠ .broken fault) :
    readPart readers [] read cursor =
      .ok ({ read with parts := read.parts ++ [.data literal] }, true)
        { cursor with tokens := rest, line := token.line } := by
  refine (bind_apply_of_ok (current_of_tokens tokens)).trans ?_
  rw [kind]
  exact (bind_apply_of_ok (advance_of_tokens tokens intact)).trans rfl

theorem readPart_reference (read : StatementsRead) {first token last : Token} {name : String}
    (expression : TakesName (readers.expression true)) (isVariable : IsVariable name)
    (tokens : cursor.tokens = first :: token :: last :: rest)
    (start : first.kind = .interpolationStart) (kind : token.kind = .name name)
    (isEnd : last.kind = .interpolationEnd)
    (intact : ∀ next ∈ rest.head?, ∀ fault, next.kind ≠ .broken fault) :
    readPart readers [] read cursor =
      .ok ({ read with parts := read.parts ++ [.expression (.name name)] }, true)
        { cursor with tokens := rest, line := last.line } := by
  have entered := advance_of_tokens tokens (by
    intro next found fault
    cases found
    rw [kind]
    simp)
  obtain ⟨line, taken⟩ := takesName_readExpressionTuple expression name
    { cursor with tokens := token :: last :: rest, line := first.line } _
    ⟨isVariable, token, last, rest, rfl, kind, isEnd, rfl⟩
  have ended : expectInterpolationEnd
      { cursor with tokens := last :: rest, line := token.line } =
      .ok () { cursor with tokens := rest, line := last.line } := by
    refine (bind_apply_of_ok (current_of_tokens rfl)).trans ?_
    rw [isEnd]
    exact (bind_apply_of_ok (advance_of_tokens rfl intact)).trans rfl
  refine (bind_apply_of_ok (current_of_tokens tokens)).trans ?_
  rw [start]
  exact (bind_apply_of_ok entered).trans ((bind_apply_of_ok taken).trans
    ((bind_apply_of_ok ended).trans rfl))

theorem readPart_finish (readers : Readers) (read : StatementsRead) (tokens : cursor.tokens = []) :
    readPart readers [] read cursor = .ok (read.flush, false) cursor :=
  (bind_apply_of_ok (current_of_finished tokens)).trans rfl

/-- Reading from the tokens of pieces on adds their parts and comes to the end. -/
theorem repeatWith_readPart (expression : TakesName (readers.expression true))
    {pieces : List Piece} (names : ∀ name, .reference name ∈ pieces → IsVariable name)
    (fuel : Nat) (read : StatementsRead) (cursor : Cursor)
    (kinds : cursor.tokens.map Token.kind = pieces.flatMap Piece.kinds)
    (enough : cursor.tokens.length < fuel) :
    ∃ after, repeatWith (readPart readers []) fuel read cursor =
      .ok (StatementsRead.flush { read with parts := read.parts ++ pieces.map Piece.part })
        after := by
  induction pieces generalizing fuel read cursor with
  | nil =>
    obtain ⟨fuel, rfl⟩ := Nat.exists_eq_add_one_of_ne_zero (Nat.ne_zero_of_lt enough)
    have finished := readPart_finish readers read (List.map_eq_nil_iff.mp kinds)
    refine ⟨cursor, (bind_apply_of_ok finished).trans ?_⟩
    rw [List.map_nil, List.append_nil]
    rfl
  | cons piece more ih =>
    have others : ∀ name, .reference name ∈ more → IsVariable name := fun name among =>
      names name (List.mem_cons_of_mem _ among)
    obtain ⟨fuel, rfl⟩ := Nat.exists_eq_add_one_of_ne_zero (Nat.ne_zero_of_lt enough)
    -- What the step leaves is shorter, and is read by the induction hypothesis.
    obtain ⟨rest, line, taken, left, fewer⟩ : ∃ rest line,
        readPart readers [] read cursor =
          .ok ({ read with parts := read.parts ++ [piece.part] }, true)
            { cursor with tokens := rest, line := line } ∧
        rest.map Token.kind = more.flatMap Piece.kinds ∧
        rest.length < cursor.tokens.length := by
      cases piece with
      | literal text =>
        obtain ⟨token, rest, tokens, kind, left⟩ := List.map_eq_cons_iff.mp kinds
        refine ⟨rest, _, readPart_data readers read tokens kind (intact_of_kinds left), left, ?_⟩
        rw [tokens]
        exact Nat.lt_add_one _
      | reference name =>
        obtain ⟨first, _, tokens, start, kinds⟩ := List.map_eq_cons_iff.mp kinds
        obtain ⟨token, _, rfl, kind, kinds⟩ := List.map_eq_cons_iff.mp kinds
        obtain ⟨last, rest, rfl, isEnd, left⟩ := List.map_eq_cons_iff.mp kinds
        have isVariable := names name (List.mem_cons_self ..)
        refine ⟨rest, _, readPart_reference read expression isVariable tokens start kind isEnd
          (intact_of_kinds left), left, ?_⟩
        rw [tokens, List.length_cons, List.length_cons, List.length_cons]
        omega
    obtain ⟨after, ended⟩ := ih others fuel { read with parts := read.parts ++ [piece.part] }
      { cursor with tokens := rest, line := line } left
      (Nat.lt_of_lt_of_le fewer (Nat.le_of_lt_succ enough))
    refine ⟨after, (bind_apply_of_ok taken).trans (ended.trans ?_)⟩
    rw [List.append_assoc]
    rfl

end Parts

/-- A plain template is read as the statements of its pieces. -/
theorem parse_plain {text : Interpolated} (isPlain : text.IsPlain) :
    parse .default text.source = .ok (statements text.unified.pieces) := by
  have names : ∀ name, .reference name ∈ text.unified.pieces → IsVariable name :=
    fun name among => isPlain.unified.names name (Interpolated.reference_mem_pieces.mp among)
  have kinds := kinds_tokens isPlain
  generalize text.unified.pieces = pieces at names kinds
  unfold parse
  generalize tokens .default text.source = read at kinds
  obtain ⟨after, ended⟩ := repeatWith_readPart (takesName_expression 1997) names
    (read.length + 2) {} ⟨read, 1, read.length⟩ kinds (Nat.lt_add_of_pos_right (by decide))
  have intact : checkBroken ⟨read, 1, read.length⟩ = .ok () ⟨read, 1, read.length⟩ :=
    checkBroken_of_intact (intact_of_kinds kinds)
  have flushed : (StatementsRead.flush { parts := pieces.map Piece.part }).statements =
      statements pieces := by
    cases pieces <;> rfl
  have whole : readStatements (readers parseDepth) [] ⟨read, 1, read.length⟩ =
      .ok (statements pieces) after := by
    refine (bind_apply_of_ok ((bind_apply_of_ok (get_apply _)).trans ended)).trans ?_
    exact congrArg (EStateM.Result.ok · after) flushed
  have run : (do
      checkBroken
      readStatements (readers parseDepth) [] : Reader _).run ⟨read, 1, read.length⟩ =
        .ok (statements pieces) after := (bind_apply_of_ok intact).trans whole
  simp only [run]

end Stencil.Template
