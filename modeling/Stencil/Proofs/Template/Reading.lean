import Stencil.Proofs.Outcome
import Stencil.Template.Settle

/-!
# Faults of reading templates

What is no template is refused with a fault of its text: a token or a tag that means
nothing, a number that cannot be read, or a name used in a way that has no code.  Reading a
template has no faults of other kinds.  In particular it never looks for other templates.
-/

namespace Stencil

open Outcome

/-- A fault that the text of a template ends with. -/
inductive Fault.OfSource : Fault → Prop
  | templateSyntax (line : Nat) : OfSource (.templateSyntax line)
  | templateMeaning (line : Nat) (text : String) : OfSource (.templateMeaning line text)
  | malformedCode : OfSource .malformedCode
  | wrongValue : OfSource .wrongValue
  | assertion (text : String) : OfSource (.assertion text)
  | tooDeep : OfSource .tooDeep

namespace Template

open Fault (OfSource)
open Reader

/-! ## Tokens -/

/-- Broken tokens have faults of the text. -/
def Intact (tokens : List Token) : Prop :=
  ∀ token ∈ tokens, ∀ fault, token.kind = .broken fault → fault.OfSource

theorem Intact.append {front back : List Token} (first : Intact front) (second : Intact back) :
    Intact (front ++ back) :=
  List.forall_mem_append.mpr ⟨first, second⟩

theorem Intact.cons {token : Token} {tokens : List Token}
    (here : ∀ fault, token.kind = .broken fault → fault.OfSource) (rest : Intact tokens) :
    Intact (token :: tokens) :=
  List.forall_mem_cons.mpr ⟨here, rest⟩

theorem intact_nil : Intact [] :=
  fun _ member => nomatch member

private theorem intact_broken (line place : Nat) :
    Intact [⟨line, .broken (.templateSyntax place)⟩] := by
  refine .cons (fun fault broken => ?_) intact_nil
  cases broken
  exact .templateSyntax place

private theorem intact_dataToken (line : Nat) (text : List Char) :
    Intact (dataToken line text) := by
  unfold dataToken
  split
  · exact intact_nil
  · exact .cons (fun fault broken => nomatch broken) intact_nil

private theorem ofSource_floatKind {line : Nat} {numeral : List Char} {fault : Fault}
    (broken : floatKind line numeral = .broken fault) : fault.OfSource := by
  unfold floatKind at broken
  split at broken
  · split at broken
    · cases broken
    · cases broken
      exact .templateSyntax line
  · cases broken
    exact .malformedCode

private theorem ofSource_integerKind {numeral : List Char} {fault : Fault}
    (broken : integerKind numeral = .broken fault) : fault.OfSource := by
  unfold integerKind at broken
  split at broken
  · cases broken
  · cases broken
    exact .wrongValue

private theorem ofSource_nameKind {line : Nat} {name : List Char} {fault : Fault}
    (broken : nameKind line name = .broken fault) : fault.OfSource := by
  unfold nameKind at broken
  split at broken
  · cases broken
  · cases broken
    exact .templateSyntax line

private theorem ofSource_scanInside {line : Nat} {afterDot : Bool} {characters : List Char}
    {scanned : Scanned} {fault : Fault}
    (found : scanInside line afterDot characters = some scanned)
    (broken : scanned.kind = some (.broken fault)) : fault.OfSource := by
  unfold scanInside at found
  split at found
  · cases found
  · split at found
    · cases found
      cases broken
    · dsimp only at found
      split at found
      · cases found
        exact ofSource_floatKind (Option.some.inj broken)
      · split at found
        · cases found
          exact ofSource_integerKind (Option.some.inj broken)
        · split at found
          · cases found
            exact ofSource_nameKind (Option.some.inj broken)
          · split at found
            · cases found
              have kind := Option.some.inj broken
              split at kind
              · cases kind
              · cases kind
                exact .templateSyntax line
            · rcases Option.map_eq_some_iff.mp found with ⟨sign, -, rfl⟩
              cases broken

mutual

private theorem intact_outerTokens (delimiters : Delimiters) (fuel line : Nat)
    (characters : List Char) : Intact (outerTokens delimiters fuel line characters) := by
  cases fuel with
  | zero => exact intact_nil
  | succ fuel =>
    unfold outerTokens
    split
    · exact intact_dataToken line _
    · next opened _ =>
      refine .append (intact_dataToken line _) ?_
      split
      · split
        · exact .append (intact_dataToken _ _) (intact_outerTokens delimiters fuel _ _)
        · split
          · exact intact_nil
          · exact intact_broken _ _
      · split
        · exact intact_outerTokens delimiters fuel _ _
        · split
          · exact intact_nil
          · exact intact_broken _ _
      · exact .cons (fun _ broken => nomatch broken) (intact_innerTokens delimiters fuel _ _ _ _ _)
      · exact .cons (fun _ broken => nomatch broken) (intact_innerTokens delimiters fuel _ _ _ _ _)

private theorem intact_innerTokens (delimiters : Delimiters) (fuel : Nat) (tag : TagKind)
    (line : Nat) (stack : List Sign) (afterDot : Bool) (characters : List Char) :
    Intact (innerTokens delimiters fuel tag line stack afterDot characters) := by
  cases fuel with
  | zero => exact intact_nil
  | succ fuel =>
    unfold innerTokens
    dsimp only
    split
    · refine .cons (fun fault broken => ?_) (intact_outerTokens delimiters fuel _ _)
      cases tag <;> cases broken
    · split
      · split
        · exact intact_nil
        · exact intact_broken _ _
      · next scanned found =>
        split
        · exact intact_innerTokens delimiters fuel _ _ _ _ _
        · split
          · exact .cons (fun _ broken => nomatch broken)
              (intact_innerTokens delimiters fuel _ _ _ _ _)
          · exact intact_broken _ _
        · next kind _ isKind =>
          refine .cons (fun fault broken => ?_) (intact_innerTokens delimiters fuel _ _ _ _ _)
          cases broken
          exact ofSource_scanInside found isKind

end

theorem intact_tokens (delimiters : Delimiters) (source : List Char) :
    Intact (tokens delimiters source) :=
  intact_outerTokens delimiters _ 1 _

/-! ## Readers -/

/-- Reading that only fails with faults of the text, and goes on with intact tokens. -/
def Reads {α : Type} (reader : Reader α) : Prop :=
  Yields (fun cursor : Cursor => Intact cursor.tokens) OfSource (fun _ => True) reader

namespace Reads

variable {α β : Type}

theorem pure (value : α) : Reads (Pure.pure value) :=
  Yields.pure trivial

theorem throw {fault : Fault} (ofSource : fault.OfSource) :
    Reads (MonadExcept.throw fault : Reader α) :=
  Yields.throw ofSource

theorem bind {reader : Reader α} {next : α → Reader β} (first : Reads reader)
    (second : ∀ value, Reads (next value)) : Reads (reader >>= next) :=
  Yields.bind first fun value _ => second value

theorem ite {condition : Prop} [Decidable condition] {first second : Reader α}
    (here : Reads first) (there : Reads second) :
    Reads (if condition then first else second) := by
  split
  · exact here
  · exact there

/-- Something is read before all else under a condition. -/
theorem after {condition : Prop} [Decidable condition] {check : Reader β} {next : Reader α}
    (here : Reads check) (there : Reads next) :
    Reads (if condition then check >>= fun _ => next else next) :=
  .ite (.bind here fun _ => there) there

end Reads

private theorem yields_current :
    Yields (fun cursor : Cursor => Intact cursor.tokens) OfSource
      (fun token => ∀ fault, token.kind = .broken fault → fault.OfSource) current := by
  unfold current
  refine .bind .get fun cursor intact => ?_
  split
  · next token rest split =>
    rw [split] at intact
    exact .pure (intact token (List.mem_cons_self ..))
  · exact .pure fun _ broken => nomatch broken

private theorem reads_current : Reads current :=
  yields_current.mono fun _ _ => trivial

private theorem reads_checkBroken : Reads checkBroken := by
  refine Yields.bind yields_current fun token intact => ?_
  split
  · next fault broken => exact .throw (intact fault broken)
  · exact .pure trivial

private theorem reads_advance : Reads advance := by
  refine .bind reads_current fun token => .bind (Yields.modify fun cursor intact => ?_) fun _ => ?_
  · exact fun token member => intact token (List.mem_of_mem_tail member)
  · exact .bind reads_checkBroken fun _ => .pure token

private theorem reads_peek : Reads peek := by
  refine Yields.bind .get fun cursor intact => Reads.bind reads_advance fun _ => ?_
  exact .bind reads_current fun _ => .bind (Yields.set intact) fun _ => .pure _

private theorem reads_failAt {α : Type} (line : Nat) : Reads (failAt line : Reader α) :=
  .throw (.templateSyntax line)

private theorem reads_fail {α : Type} : Reads (fail : Reader α) :=
  .bind reads_current fun _ => reads_failAt _

private theorem reads_atName (names : List String) : Reads (atName names) := by
  refine .bind reads_current fun token => ?_
  split <;> exact .pure _

private theorem reads_atSign (sign : Sign) : Reads (atSign sign) :=
  .bind reads_current fun _ => .pure _

private theorem reads_atBlockEnd : Reads atBlockEnd :=
  .bind reads_current fun _ => .pure _

private theorem reads_skipName (name : String) : Reads (skipName name) :=
  .bind reads_current fun _ => .ite (.bind reads_advance fun _ => .pure _) (.pure _)

private theorem reads_skipSign (sign : Sign) : Reads (skipSign sign) :=
  .bind reads_current fun _ => .ite (.bind reads_advance fun _ => .pure _) (.pure _)

private theorem reads_expectName (name : String) : Reads (expectName name) :=
  .bind reads_current fun _ => .ite reads_advance reads_fail

private theorem reads_expectSign (sign : Sign) : Reads (expectSign sign) :=
  .bind reads_current fun _ => .ite reads_advance reads_fail

private theorem reads_expectAnyName : Reads expectAnyName := by
  refine .bind reads_current fun token => ?_
  split
  · exact .bind reads_advance fun _ => .pure _
  · exact reads_fail

private theorem reads_expectBlockEnd : Reads expectBlockEnd :=
  .bind reads_atBlockEnd fun _ => .ite (.bind reads_advance fun _ => .pure _) reads_fail

private theorem reads_expectInterpolationEnd : Reads expectInterpolationEnd := by
  refine .bind reads_current fun token => ?_
  split
  · exact .bind reads_advance fun _ => .pure _
  · exact reads_fail

private theorem reads_untilDone {σ : Type} {step : σ → Reader (σ × Bool)}
    (each : ∀ state, Reads (step state)) (start : σ) : Reads (untilDone step start) := by
  have repeated : ∀ fuel state, Reads (repeatWith step fuel state) := by
    intro fuel
    induction fuel with
    | zero => exact fun state => .pure state
    | succ fuel ih =>
      intro state
      refine .bind (each state) fun (next, more) => ?_
      exact .ite (ih next) (.pure next)
  exact Yields.bind .get fun cursor _ => repeated _ start

/-- Readers for nested parts have no other faults. -/
structure Readers.Sound (readers : Readers) : Prop where
  expression : ∀ choiceAllowed, Reads (readers.expression choiceAllowed)
  choice : Reads readers.choice
  negation : Reads readers.negation
  unary : ∀ filtersAllowed, Reads (readers.unary filtersAllowed)
  body : ∀ endNames, Reads (readers.body endNames)

/-! ## Expressions -/

private theorem reads_atTupleEnd (endNames : List String) : Reads (atTupleEnd endNames) := by
  refine .bind reads_current fun token => ?_
  split <;> exact .pure _

private theorem reads_readTuple {α : Type} {readItem : Reader α} (item : Reads readItem)
    (endNames : List String) (emptyAllowed : Bool) :
    Reads (readTuple readItem endNames emptyAllowed) := by
  refine .bind reads_current fun token => .bind ?_ fun (line, items, isTuple) => ?_
  · refine reads_untilDone (fun (line, items, isTuple) => ?_) _
    refine .after (reads_expectSign _) (.bind (reads_atTupleEnd _) fun _ => ?_)
    refine .ite (.pure _) (.bind item fun _ => .bind (reads_atSign _) fun _ => ?_)
    exact .ite (.bind reads_current fun _ => .pure _) (.pure _)
  · exact .after reads_fail (.pure _)

section Readers

variable {readers : Readers} (sound : readers.Sound)

include sound

private theorem reads_readExpressionTuple (choiceAllowed : Bool) (endNames : List String)
    (parenthesized : Bool) :
    Reads (readExpressionTuple readers choiceAllowed endNames parenthesized) := by
  refine .bind (reads_readTuple (sound.expression _) _ _) fun (line, items, isTuple) => ?_
  dsimp only
  split <;> exact .pure _

omit sound in
private theorem reads_readEnclosed {α : Type} {readItem : Reader α} (item : Reads readItem)
    (closing : Sign) : Reads (readEnclosed closing readItem) := by
  refine .bind (reads_untilDone (fun items => ?_) _) fun _ =>
    .bind (reads_expectSign _) fun _ => .pure _
  refine .bind (reads_atSign _) fun _ => .ite (.pure _) ?_
  have further : Reads (do return (items ++ [← readItem], true)) := .bind item fun _ => .pure _
  exact .ite (.bind (reads_expectSign _) fun _ => .bind (reads_atSign _) fun _ =>
    .ite (.pure _) further) further

private theorem reads_readList : Reads (readList readers) :=
  .bind (reads_expectSign _) fun _ =>
    .bind (reads_readEnclosed (sound.expression true) _) fun _ => .pure _

private theorem reads_readDict : Reads (readDict readers) := by
  refine .bind (reads_expectSign _) fun _ => .bind (reads_readEnclosed ?_ _) fun _ => .pure _
  exact .bind (sound.expression true) fun _ => .bind (reads_expectSign _) fun _ =>
    .bind (sound.expression true) fun _ => .pure _

omit sound in
private theorem reads_readTexts (first : Text) : Reads (readTexts first) := by
  refine reads_untilDone (fun text => .bind reads_current fun token => ?_) first
  split
  · exact .bind reads_advance fun _ => .pure _
  · exact .pure _

private theorem reads_readPrimary : Reads (readPrimary readers) := by
  refine .bind reads_current fun token => ?_
  split
  · refine .bind reads_advance fun _ => ?_
    split <;> exact .pure _
  · exact .bind reads_advance fun _ => .bind (reads_readTexts _) fun _ => .pure _
  · exact .bind reads_advance fun _ => .pure _
  · exact .bind reads_advance fun _ => .pure _
  · exact .bind reads_advance fun _ => .bind (reads_readExpressionTuple sound _ _ _) fun _ =>
      .bind (reads_expectSign _) fun _ => .pure _
  · exact reads_readList sound
  · exact reads_readDict sound
  · exact reads_failAt _

private theorem reads_readArgument (line : Nat) (arguments : Arguments (Expression String)) :
    Reads (readArgument readers line arguments) := by
  have ensure : ∀ good : Bool, Reads (if good then (return () : Reader Unit) else failAt line) :=
    fun good => .ite (.pure _) (reads_failAt _)
  refine .bind (reads_atSign _) fun _ => .ite ?_ (.bind (reads_atSign _) fun _ => .ite ?_ ?_)
  · exact .bind (ensure _) fun _ => .bind reads_advance fun _ =>
      .bind (sound.expression true) fun _ => .pure _
  · exact .bind (ensure _) fun _ => .bind reads_advance fun _ =>
      .bind (sound.expression true) fun _ => .pure _
  · refine .bind reads_current fun token => ?_
    extract_lets onward
    have further : ∀ isNamed, Reads (onward isNamed) := fun _ =>
      .ite
        (.bind (ensure _) fun _ => .bind reads_expectAnyName fun _ =>
          .bind reads_advance fun _ => .bind (sound.expression true) fun _ => .pure _)
        (.bind (ensure _) fun _ => .bind (sound.expression true) fun _ => .pure _)
    split
    · exact .bind reads_peek fun _ => .bind (.pure _) further
    · exact .bind (.pure _) further

private theorem reads_readArguments : Reads (readArguments readers) := by
  refine .bind (reads_expectSign _) fun token => .bind (reads_untilDone (fun read => ?_) _)
    fun _ => .bind (reads_expectSign _) fun _ => .pure _
  refine .bind (reads_atSign _) fun _ => .ite (.pure _) ?_
  have further : Reads (do
      return ((⟨← readArgument readers token.line read.arguments, true⟩ : ArgumentsRead),
        true)) :=
    .bind (reads_readArgument sound _ _) fun _ => .pure _
  exact .ite (.bind (reads_expectSign _) fun _ => .bind (reads_atSign _) fun _ =>
    .ite (.pure _) further) further

private theorem reads_readCall (function : Located) : Reads (readCall readers function) :=
  .bind reads_current fun _ => .bind (reads_readArguments sound) fun _ => .pure _

private theorem reads_readIndex : Reads (readIndex readers) := by
  unfold readIndex
  extract_lets bound onward
  have bounded : Reads bound :=
    .bind reads_current fun _ => .ite (.pure _) (.bind (sound.expression true) fun _ => .pure _)
  have further : ∀ start, Reads (onward start) := by
    intro start
    refine .bind (reads_atSign _) fun _ => ?_
    extract_lets ended sliced
    have ends : ∀ stop, Reads (ended stop) := fun stop =>
      .bind (reads_atSign _) fun _ =>
        .ite (.bind reads_advance fun _ => .bind bounded fun _ => .pure _) (.pure _)
    have slices : ∀ done, Reads (sliced done) := fun done =>
      .bind reads_advance fun _ => .bind (reads_atSign _) fun _ =>
        .ite (.bind (.pure _) ends) (.bind bounded ends)
    refine .ite ?_ (slices ())
    split
    · exact .pure _
    · exact .bind reads_fail slices
  exact .bind (reads_atSign _) fun _ => .ite (.bind (.pure _) further)
    (.bind (sound.expression true) fun _ => .bind (.pure _) further)

private theorem reads_readSubscript (subject : Located) :
    Reads (readSubscript readers subject) := by
  refine .bind reads_advance fun token => .ite ?_ ?_
  · refine .bind reads_current fun field => .bind reads_advance fun _ => ?_
    split
    · exact .pure _
    · exact .pure _
    · exact reads_failAt _
  · refine .bind (reads_untilDone (fun indices => ?_) _) fun indices =>
      .bind (reads_expectSign _) fun _ => ?_
    · exact .bind (reads_atSign _) fun _ => .ite (.pure _)
        (.after (reads_expectSign _) (.bind (reads_readIndex sound) fun _ => .pure _))
    · split <;> exact .pure _

private theorem reads_readTrailers (operand : Located) : Reads (readTrailers readers operand) := by
  refine reads_untilDone (fun operand => .bind reads_current fun token => ?_) operand
  split
  · exact .bind (reads_readSubscript sound _) fun _ => .pure _
  · exact .bind (reads_readSubscript sound _) fun _ => .pure _
  · exact .bind (reads_readCall sound _) fun _ => .pure _
  · exact .pure _

omit sound in
private theorem reads_readDottedName : Reads readDottedName := by
  refine .bind reads_expectAnyName fun (line, first) =>
    .bind (reads_untilDone (fun name => ?_) first) fun _ => .pure _
  exact .bind (reads_skipSign _) fun _ =>
    .ite (.bind reads_expectAnyName fun _ => .pure _) (.pure _)

private theorem reads_readOneFilter (subject : Expression String) :
    Reads (readOneFilter readers subject) := by
  refine .bind reads_readDottedName fun (line, name) => .bind (reads_atSign _) fun _ => ?_
  extract_lets onward
  have further : ∀ arguments, Reads (onward arguments) := fun _ => .pure _
  exact .ite (.bind (reads_readArguments sound) further) (.bind (.pure _) further)

private theorem reads_readFilters (subject : Located) : Reads (readFilters readers subject) :=
  reads_untilDone (fun _ => .bind (reads_skipSign _) fun _ =>
    .ite (.bind (reads_readOneFilter sound _) fun _ => .pure _) (.pure _)) subject

omit sound in
private theorem reads_atTestArgument : Reads atTestArgument := by
  refine .bind reads_current fun token => ?_
  split <;> exact .pure _

private theorem reads_readTest (subject : Located) : Reads (readTest readers subject) := by
  refine .bind reads_advance fun token => .bind (reads_skipName _) fun negated =>
    .bind reads_readDottedName fun (_, name) => .bind (reads_atSign _) fun _ => ?_
  extract_lets onward checked
  have further : ∀ arguments, Reads (onward arguments) := fun _ => .pure _
  have checks : ∀ done, Reads (checked done) := fun _ =>
    .bind (reads_readPrimary sound) fun _ => .bind (reads_readTrailers sound _) fun _ =>
      .bind (.pure _) further
  refine .bind reads_atTestArgument fun _ => .ite (.bind (reads_readArguments sound) further)
    (.ite (.bind (reads_atName _) fun _ => ?_) (.bind (.pure _) further))
  exact .ite (.bind reads_fail checks) (checks ())

private theorem reads_readFilterExpression (operand : Located) :
    Reads (readFilterExpression readers operand) := by
  refine reads_untilDone (fun operand => .bind reads_current fun token => ?_) operand
  split
  · exact .bind (reads_readFilters sound _) fun _ => .pure _
  · exact .bind (reads_readTest sound _) fun _ => .pure _
  · exact .bind (reads_readCall sound _) fun _ => .pure _
  · exact .pure _

private theorem reads_readUnary (filtersAllowed : Bool) :
    Reads (readUnary readers filtersAllowed) := by
  refine .bind reads_current fun token => ?_
  extract_lets onward
  have further : ∀ operand, Reads (onward operand) := fun operand =>
    .bind (reads_readTrailers sound operand) fun _ =>
      .ite (reads_readFilterExpression sound _) (.pure _)
  refine .ite ?_ (.ite ?_ (.bind (reads_readPrimary sound) further))
  · exact .bind reads_advance fun _ => .bind (sound.unary false) fun _ => .bind (.pure _) further
  · exact .bind reads_advance fun _ => .bind (sound.unary false) fun _ => .bind (.pure _) further

omit sound in
private theorem reads_readBinary {operator? : Sign → Option BinaryOperator}
    {readOperand : Reader Located} (operand : Reads readOperand) :
    Reads (readBinary operator? readOperand) := by
  refine .bind operand fun first =>
    reads_untilDone (fun left => .bind reads_current fun token => ?_) first
  split
  · split
    · exact .bind reads_advance fun _ => .bind operand fun _ => .pure _
    · exact .pure _
  · exact .pure _

private theorem reads_readProduct : Reads (readProduct readers) :=
  reads_readBinary (reads_readBinary (sound.unary true))

private theorem reads_readConcat : Reads (readConcat readers) := by
  refine .bind reads_current fun token => .bind (reads_readProduct sound) fun first =>
    .bind (reads_untilDone (fun items => ?_) _) fun items => ?_
  · exact .bind (reads_skipSign _) fun _ =>
      .ite (.bind (reads_readProduct sound) fun _ => .pure _) (.pure _)
  · split <;> exact .pure _

omit sound in
private theorem reads_readComparison? : Reads readComparison? := by
  refine .bind reads_current fun token => ?_
  split
  · split
    · exact .bind reads_advance fun _ => .pure _
    · exact .pure _
  · exact .bind reads_advance fun _ => .pure _
  · exact .bind reads_peek fun _ =>
      .ite (.bind reads_advance fun _ => .bind reads_advance fun _ => .pure _) (.pure _)
  · exact .pure _

private theorem reads_readCompare : Reads (readCompare readers) := by
  have operand : Reads (readBinary sumOperator? (readConcat readers)) :=
    reads_readBinary (reads_readConcat sound)
  refine .bind reads_current fun token => .bind operand fun first =>
    .bind (reads_untilDone (fun rest => .bind reads_readComparison? fun comparison => ?_) _)
      fun rest => ?_
  · split
    · exact .bind operand fun _ => .pure _
    · exact .pure _
  · split <;> exact .pure _

private theorem reads_readNegation : Reads (readNegation readers) :=
  .bind reads_current fun _ =>
    .ite (.bind reads_advance fun _ => .bind sound.negation fun _ => .pure _)
      (reads_readCompare sound)

omit sound in
private theorem reads_readJoined {word : String}
    {combine : Expression String → Expression String → Expression String}
    {readOperand : Reader Located} (operand : Reads readOperand) :
    Reads (readJoined word combine readOperand) :=
  .bind operand fun first => reads_untilDone (fun _ => .bind (reads_skipName _) fun _ =>
    .ite (.bind operand fun _ => .pure _) (.pure _)) first

private theorem reads_readEither : Reads (readEither readers) :=
  reads_readJoined (reads_readJoined sound.negation)

private theorem reads_readChoice : Reads (readChoice readers) := by
  refine .bind reads_current fun token => .bind (reads_readEither sound) fun first =>
    .bind (reads_untilDone (fun (line, chosen) => ?_) _) fun _ => .pure _
  refine .bind (reads_skipName _) fun _ => .ite ?_ (.pure _)
  refine .bind (reads_readEither sound) fun condition => .bind (reads_skipName _) fun _ => ?_
  extract_lets onward
  have further : ∀ otherwise, Reads (onward otherwise) := fun _ =>
    .bind reads_current fun _ => .pure _
  exact .ite (.bind sound.choice fun _ => .bind (.pure _) further) (.bind (.pure _) further)

private theorem reads_readExpression (choiceAllowed : Bool) :
    Reads (readExpression readers choiceAllowed) :=
  .ite (reads_readChoice sound) (reads_readEither sound)

/-! ## Statements -/

private theorem reads_readTargetItem (membersAllowed : Bool) :
    Reads (readTargetItem readers membersAllowed) := by
  refine .bind reads_current fun token => ?_
  split
  · refine .bind reads_advance fun _ => .ite (.pure _) (.bind (reads_atSign _) fun _ => ?_)
    exact .ite (.bind reads_advance fun _ => .bind reads_expectAnyName fun _ => .pure _) (.pure _)
  · exact .bind (reads_readPrimary sound) fun _ => .pure _

private theorem reads_readTarget (endNames : List String) (membersAllowed : Bool) :
    Reads (readTarget readers endNames membersAllowed) := by
  refine .bind (reads_readTuple (reads_readTargetItem sound _) _ _)
    fun (line, items, isTuple) => ?_
  dsimp only
  split
  · exact .pure _
  · exact reads_failAt _
  · split
    · exact .pure _
    · exact reads_failAt _

omit sound in
private theorem reads_readTargetName : Reads readTargetName :=
  .bind reads_expectAnyName fun (_, _) => .ite (reads_failAt _) (.pure _)

private theorem reads_readBody (endNames : List String) : Reads (readBody readers endNames) := by
  refine .bind (reads_skipSign _) fun _ => .bind reads_expectBlockEnd fun _ =>
    .bind (sound.body _) fun _ => .bind reads_current fun token => ?_
  split
  · exact reads_fail
  · exact .pure _

private theorem reads_readBodyTo (endName : String) : Reads (readBodyTo readers endName) :=
  .bind (reads_readBody sound _) fun _ => .bind reads_advance fun _ => .pure _

private theorem reads_readLoop : Reads (readLoop readers) := by
  refine .bind (reads_expectName _) fun token => .bind (reads_readTarget sound _ _) fun target =>
    .bind (reads_expectName _) fun _ => .bind (reads_readExpressionTuple sound _ _ _) fun items =>
      .bind (reads_skipName _) fun _ => ?_
  extract_lets onward
  have further : ∀ condition, Reads (onward condition) := by
    intro condition
    refine .bind (reads_skipName _) fun recursive => .bind (reads_readBody sound _) fun body =>
      .bind reads_advance fun ending => ?_
    exact .ite (.bind (.pure _) fun _ => .pure _)
      (.bind (reads_readBodyTo sound _) fun _ => .pure _)
  exact .ite (.bind (sound.expression true) fun _ => .bind (.pure _) further)
    (.bind (.pure _) further)

private theorem reads_readConditional : Reads (readConditional readers) := by
  refine .bind (reads_expectName _) fun _ =>
    .bind (reads_untilDone (fun read => ?_) _) fun _ => .pure _
  refine .bind (reads_readExpressionTuple sound _ _ _) fun condition =>
    .bind (reads_readBody sound _) fun body => .bind reads_advance fun ending => ?_
  exact .ite (.pure _) (.ite (.bind (reads_readBodyTo sound _) fun _ => .pure _) (.pure _))

private theorem reads_readBind : Reads (readBind readers) := by
  refine .bind reads_advance fun _ => .bind (reads_untilDone (fun bindings => ?_) _) fun _ =>
    .bind (reads_readBodyTo sound _) fun _ => .pure _
  refine .bind reads_atBlockEnd fun _ => .ite (.pure _) (.after (reads_expectSign _) ?_)
  exact .bind (reads_readTarget sound _ _) fun _ => .bind (reads_expectSign _) fun _ =>
    .bind (sound.expression true) fun _ => .pure _

private theorem reads_readBlock : Reads (readBlock readers) := by
  refine .bind reads_advance fun token => .bind reads_expectAnyName fun (_, name) =>
    .bind (reads_skipName _) fun isScoped => .bind (reads_skipName _) fun isRequired =>
      .bind (reads_atSign _) fun _ => ?_
  extract_lets onward
  have further : ∀ done, Reads (onward done) := fun _ =>
    .bind (reads_readBodyTo sound _) fun body =>
      .ite (.bind reads_fail fun _ => .bind (reads_skipName _) fun _ => .pure _)
        (.bind (reads_skipName _) fun _ => .pure _)
  exact .ite (.bind reads_fail further) (further ())

private theorem reads_readExtend : Reads (readExtend readers) :=
  .bind reads_advance fun _ => .bind (sound.expression true) fun _ => .pure _

omit sound in
private theorem reads_readContextWords? : Reads readContextWords? :=
  .bind (reads_atName _) fun _ => .bind reads_peek fun _ =>
    .ite (.bind reads_advance fun _ => .bind reads_advance fun _ => .pure _) (.pure _)

private theorem reads_readEmbed : Reads (readEmbed readers) := by
  refine .bind reads_advance fun _ => .bind (sound.expression true) fun _ =>
    .bind (reads_atName _) fun _ => .bind reads_peek fun _ => ?_
  extract_lets onward
  have further : ∀ ignoreMissing, Reads (onward ignoreMissing) := fun _ =>
    .bind reads_readContextWords? fun _ => .pure _
  exact .ite (.bind reads_advance fun _ => .bind reads_advance fun _ => .bind (.pure _) further)
    (.bind (.pure _) further)

private theorem reads_readImportAs : Reads (readImportAs readers) :=
  .bind reads_advance fun _ => .bind (sound.expression true) fun _ =>
    .bind (reads_expectName _) fun _ => .bind reads_readTargetName fun (_, _) =>
      .bind reads_readContextWords? fun _ => .pure _

private theorem reads_readImportNames : Reads (readImportNames readers) := by
  refine .bind reads_advance fun token => .bind (sound.expression true) fun _ =>
    .bind (reads_expectName _) fun _ => .bind (reads_untilDone (fun read => ?_) _) fun _ => .pure _
  refine .after (reads_expectSign _) (.bind reads_current fun token => ?_)
  split
  · refine .bind reads_readContextWords? fun words => ?_
    split
    · exact .pure _
    · refine .bind reads_readTargetName fun (line, name) => ?_
      dsimp -zeta only
      extract_lets onward named
      have further : ∀ alias_, Reads (onward alias_) := by
        intro alias_
        refine .bind reads_readContextWords? fun words => ?_
        split
        · exact .pure _
        · exact .bind (reads_atSign _) fun _ => .pure _
      have names : ∀ done, Reads (named done) := fun _ =>
        .bind (reads_skipName _) fun _ => .ite
          (.bind reads_readTargetName fun (_, _) => .bind (.pure _) further)
          (.bind (.pure _) further)
      exact .ite (.bind (.throw (.templateMeaning _ _)) names) (names ())
  · exact reads_fail

private theorem reads_readSignature : Reads (readSignature readers) := by
  refine .bind (reads_expectSign _) fun _ => .bind (reads_untilDone (fun (names, defaults) => ?_) _)
    fun _ => .bind (reads_expectSign _) fun _ => .pure _
  refine .bind (reads_atSign _) fun _ => .ite (.pure _) (.after (reads_expectSign _) ?_)
  refine .bind reads_readTargetName fun (_, name) => .bind (reads_skipSign _) fun _ => ?_
  exact .ite (.bind (sound.expression true) fun _ => .pure _) (.ite reads_fail (.pure _))

private theorem reads_readCallBlock : Reads (readCallBlock readers) := by
  refine .bind reads_advance fun token => .bind (reads_atSign _) fun _ => ?_
  extract_lets onward
  have further : ∀ signature, Reads (onward signature) := by
    intro (parameters, defaults)
    refine .bind (sound.expression true) fun call => ?_
    split
    · exact .bind (reads_readBodyTo sound _) fun _ => .pure _
    · exact reads_failAt _
  exact .ite (.bind (reads_readSignature sound) further) (.bind (.pure _) further)

private theorem reads_readRoutine : Reads (readRoutine readers) :=
  .bind reads_advance fun _ => .bind reads_readTargetName fun (_, _) =>
    .bind (reads_readSignature sound) fun (_, _) =>
      .bind (reads_readBodyTo sound _) fun _ => .pure _

private theorem reads_readFilterBlock : Reads (readFilterBlock readers) :=
  .bind reads_advance fun _ => .bind (reads_readOneFilter sound _) fun _ =>
    .bind (reads_readFilters sound _) fun _ => .bind (reads_readBodyTo sound _) fun _ => .pure _

private theorem reads_readPrint : Reads (readPrint readers) := by
  refine .bind reads_advance fun _ => .bind (reads_untilDone (fun parts => ?_) _) fun _ => .pure _
  exact .bind reads_atBlockEnd fun _ => .ite (.pure _) (.after (reads_expectSign _)
    (.bind (sound.expression true) fun _ => .pure _))

private theorem reads_readAssign : Reads (readAssign readers) := by
  refine .bind reads_advance fun _ => .bind (reads_readTarget sound _ _) fun target =>
    .bind (reads_skipSign _) fun _ => .ite ?_ ?_
  · exact .bind (reads_readExpressionTuple sound _ _ _) fun _ => .pure _
  · refine .bind (reads_atSign _) fun _ => ?_
    extract_lets onward
    have further : ∀ filter, Reads (onward filter) := fun _ =>
      .bind (reads_readBodyTo sound _) fun _ => .pure _
    exact .ite (.bind (reads_readFilters sound _) fun _ => .bind (.pure _) further)
      (.bind (.pure _) further)

private theorem reads_readEscaping : Reads (readEscaping readers) :=
  .bind reads_advance fun _ => .bind (sound.expression true) fun _ =>
    .bind (reads_readBodyTo sound _) fun _ => .pure _

private theorem reads_readStatement : Reads (readStatement readers) := by
  refine .bind reads_current fun token => ?_
  split
  · refine .ite (reads_readLoop sound) (.ite (reads_readConditional sound)
      (.ite (reads_readBlock sound) (.ite (reads_readExtend sound) (.ite (reads_readPrint sound)
        (.ite (reads_readRoutine sound) (.ite (reads_readEmbed sound) ?_))))))
    refine .ite (reads_readImportNames sound) (.ite (reads_readImportAs sound)
      (.ite (reads_readAssign sound) (.ite (reads_readBind sound) (.ite (reads_readEscaping sound)
        (.ite (reads_readCallBlock sound) (.ite (reads_readFilterBlock sound) ?_))))))
    exact reads_failAt _
  · exact reads_failAt _

private theorem reads_readPart (endNames : List String) (read : StatementsRead) :
    Reads (readPart readers endNames read) := by
  refine .bind reads_current fun token => ?_
  split
  · exact .pure _
  · exact .bind reads_advance fun _ => .pure _
  · exact .bind reads_advance fun _ => .bind (reads_readExpressionTuple sound _ _ _) fun _ =>
      .bind reads_expectInterpolationEnd fun _ => .pure _
  · refine .bind reads_advance fun _ => .bind (reads_atName _) fun _ => .ite (.pure _) ?_
    exact .bind (reads_readStatement sound) fun _ => .bind reads_expectBlockEnd fun _ => .pure _
  · exact .throw (.assertion _)

private theorem reads_readStatements (endNames : List String) :
    Reads (readStatements readers endNames) :=
  .bind (reads_untilDone (reads_readPart sound endNames) _) fun _ => .pure _

end Readers

theorem sound_readers (depth : Nat) : (readers depth).Sound := by
  induction depth with
  | zero =>
    exact ⟨fun _ => .throw .tooDeep, .throw .tooDeep, .throw .tooDeep, fun _ => .throw .tooDeep,
      fun _ => .throw .tooDeep⟩
  | succ depth ih =>
    exact ⟨reads_readExpression ih, reads_readChoice ih, reads_readNegation ih,
      reads_readUnary ih, reads_readStatements ih⟩

/-- Text that makes up no statements is refused with a fault of its own. -/
theorem failsOnly_parse (delimiters : Delimiters) (source : List Char) :
    FailsOnly OfSource (parse delimiters source) := by
  intro fault failed
  unfold parse at failed
  dsimp only at failed
  split at failed
  · cases failed
  · next ended =>
    cases failed
    have whole : Reads (do
        checkBroken
        readStatements (readers parseDepth) []) :=
      .bind reads_checkBroken fun _ => reads_readStatements (sound_readers parseDepth) []
    exact Yields.of_error whole ended (intact_tokens delimiters source)

end Template

end Stencil
