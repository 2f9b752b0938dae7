import Stencil.Proofs.Template.Reading

/-!
# Faults of resolving templates

Statements that have no meaning, or that no code can be made of, are refused with a fault
of the template's text.  Hence a template is compiled, or its text is at fault.
-/

namespace Stencil.Template

open Fault (OfSource)
open Outcome

/-! ## Expressions -/

private theorem failsOnly_slotOf (scope : Scope) (name : String) :
    FailsOnly OfSource (slotOf scope name) := by
  unfold slotOf
  split
  · exact .ok _
  · exact .error (.assertion _)

private theorem failsOnly_checkNamed (extra : List String) (named : List (String × Code)) :
    FailsOnly OfSource (checkNamed extra named) :=
  .ite (.ok ()) (.ite (.ok ()) (.error .malformedCode))

section Expressions

variable (settler : Settler) (scope : Scope) (escape : EscapeState)

private theorem failsOnly_settleOr (expression : Expression String) {resolved : Except Fault Code}
    (otherwise : FailsOnly OfSource resolved) :
    FailsOnly OfSource (settleOr settler escape expression resolved) :=
  .ite (.ok _) otherwise

mutual

private theorem failsOnly_resolveExpression (soft : Bool) :
    ∀ expression, FailsOnly OfSource (resolveExpression settler scope escape soft expression)
  | .constant _ => .ok _
  | .name name => .bind (failsOnly_slotOf scope name) fun _ => .ok _
  | .tuple items => .bind (failsOnly_resolveAll soft items) fun _ => .ok _
  | .list items => .bind (failsOnly_resolveAll soft items) fun _ => .ok _
  | .dict entries => .bind (failsOnly_resolveEntries soft entries) fun _ => .ok _
  | .unary _ operand => by
    unfold resolveExpression
    exact failsOnly_settleOr settler escape _
      (.bind (failsOnly_resolveExpression soft operand) fun _ => .ok _)
  | .binary _ left right => by
    unfold resolveExpression
    exact failsOnly_settleOr settler escape _
      (.bind (failsOnly_resolveExpression soft left) fun _ =>
        .bind (failsOnly_resolveExpression soft right) fun _ => .ok _)
  | .both left right => by
    unfold resolveExpression
    exact failsOnly_settleOr settler escape _
      (.bind (failsOnly_resolveExpression soft left) fun _ =>
        .bind (failsOnly_resolveExpression soft right) fun _ => .ok _)
  | .either left right => by
    unfold resolveExpression
    exact failsOnly_settleOr settler escape _
      (.bind (failsOnly_resolveExpression soft left) fun _ =>
        .bind (failsOnly_resolveExpression soft right) fun _ => .ok _)
  | .concat items => by
    unfold resolveExpression
    exact failsOnly_settleOr settler escape _
      (.bind (failsOnly_resolveAll soft items) fun _ => .ok _)
  | .compare first rest => by
    unfold resolveExpression
    exact failsOnly_settleOr settler escape _
      (.bind (failsOnly_resolveExpression soft first) fun _ =>
        .bind (failsOnly_resolveCompared soft rest) fun _ => .ok _)
  | .choice _ condition chosen otherwise => by
    unfold resolveExpression
    exact failsOnly_settleOr settler escape _
      (.bind (failsOnly_resolveExpression true condition) fun _ =>
        .bind (failsOnly_resolveExpression true chosen) fun _ =>
          .bind (failsOnly_resolveOptional true otherwise) fun _ => .ok _)
  | .member subject _ => by
    unfold resolveExpression
    exact failsOnly_settleOr settler escape _
      (.bind (failsOnly_resolveExpression soft subject) fun _ => .ok _)
  | .item subject index => by
    unfold resolveExpression
    exact failsOnly_settleOr settler escape _
      (.bind (failsOnly_resolveExpression soft subject) fun _ =>
        .bind (failsOnly_resolveExpression soft index) fun _ => .ok _)
  | .slice start stop step =>
    .bind (failsOnly_resolveOptional soft start) fun _ =>
      .bind (failsOnly_resolveOptional soft stop) fun _ =>
        .bind (failsOnly_resolveOptional soft step) fun _ => .ok _
  | .call function arguments =>
    .bind (failsOnly_resolveExpression soft function) fun _ =>
      .bind (failsOnly_resolveArguments soft [] arguments) fun _ => .ok _
  | .filter _ subject used arguments => by
    unfold resolveExpression
    exact failsOnly_settleOr settler escape _
      (.checked (.error (.templateMeaning _ _)) fun _ =>
        .bind (failsOnly_resolveExpression soft subject) fun _ =>
          .bind (failsOnly_resolveArguments soft [] arguments) fun _ => .ok _)
  | .test _ subject used arguments => by
    unfold resolveExpression
    exact failsOnly_settleOr settler escape _
      (.checked (.error (.templateMeaning _ _)) fun _ =>
        .bind (failsOnly_resolveExpression soft subject) fun _ =>
          .bind (failsOnly_resolveArguments soft [] arguments) fun _ => .ok _)
  | .captured => .ok _
  | .settled _ expression => .bind (failsOnly_resolveExpression soft expression) fun _ => .ok _

private theorem failsOnly_resolveAll (soft : Bool) :
    ∀ items, FailsOnly OfSource (resolveAll settler scope escape soft items)
  | [] => .ok _
  | first :: rest =>
    .bind (failsOnly_resolveExpression soft first) fun _ =>
      .bind (failsOnly_resolveAll soft rest) fun _ => .ok _

private theorem failsOnly_resolveEntries (soft : Bool) :
    ∀ entries, FailsOnly OfSource (resolveEntries settler scope escape soft entries)
  | [] => .ok _
  | (key, value) :: rest =>
    .bind (failsOnly_resolveExpression soft key) fun _ =>
      .bind (failsOnly_resolveExpression soft value) fun _ =>
        .bind (failsOnly_resolveEntries soft rest) fun _ => .ok _

private theorem failsOnly_resolveCompared (soft : Bool) :
    ∀ rest, FailsOnly OfSource (resolveCompared settler scope escape soft rest)
  | [] => .ok _
  | (_, operand) :: rest =>
    .bind (failsOnly_resolveExpression soft operand) fun _ =>
      .bind (failsOnly_resolveCompared soft rest) fun _ => .ok _

private theorem failsOnly_resolveNamed (soft : Bool) :
    ∀ named, FailsOnly OfSource (resolveNamed settler scope escape soft named)
  | [] => .ok _
  | (_, value) :: rest =>
    .bind (failsOnly_resolveExpression soft value) fun _ =>
      .bind (failsOnly_resolveNamed soft rest) fun _ => .ok _

private theorem failsOnly_resolveOptional (soft : Bool) :
    ∀ expression?, FailsOnly OfSource (resolveOptional settler scope escape soft expression?)
  | none => .ok _
  | some expression => .bind (failsOnly_resolveExpression soft expression) fun _ => .ok _

private theorem failsOnly_resolveArguments (soft : Bool) (extra : List String) :
    ∀ arguments,
      FailsOnly OfSource (resolveArguments settler scope escape soft extra arguments)
  | ⟨positional, named, spread, spreadNamed⟩ =>
    .bind (failsOnly_resolveAll soft positional) fun _ =>
      .bind (failsOnly_resolveNamed soft named) fun _ =>
        .bind (failsOnly_checkNamed extra _) fun _ =>
          .bind (failsOnly_resolveOptional soft spread) fun _ =>
            .bind (failsOnly_resolveOptional soft spreadNamed) fun _ => .ok _

end

end Expressions

mutual

private theorem failsOnly_resolveTarget (scope : Scope) :
    ∀ target, FailsOnly OfSource (resolveTarget scope target)
  | .name _ name => .bind (failsOnly_slotOf scope name) fun _ => .ok _
  | .tuple items => .bind (failsOnly_resolveTargets scope items) fun _ => .ok _
  | .member name _ => .bind (failsOnly_slotOf scope name) fun _ => .ok _

private theorem failsOnly_resolveTargets (scope : Scope) :
    ∀ items, FailsOnly OfSource (resolveTargets scope items)
  | [] => .ok _
  | item :: items =>
    .bind (failsOnly_resolveTarget scope item) fun _ =>
      .bind (failsOnly_resolveTargets scope items) fun _ => .ok _

end

private theorem failsOnly_publishedNames (position : Position) (target : Target String) :
    FailsOnly OfSource (publishedNames position target) :=
  .ite (.bind (.mapM fun name _ => .bind (failsOnly_slotOf _ name) fun _ => .ok _) fun _ => .ok _)
    (.ok _)

/-! ## Statements -/

/-- Resolving that only fails with faults of the text. -/
def Resolves {α : Type} (resolver : Resolver α) : Prop :=
  Yields (fun _ : ExtendState => True) OfSource (fun _ => True) resolver

namespace Resolves

variable {α β : Type}

theorem pure (value : α) : Resolves (Pure.pure value) :=
  Yields.pure trivial

theorem throw {fault : Fault} (ofSource : fault.OfSource) :
    Resolves (MonadExcept.throw fault : Resolver α) :=
  Yields.throw ofSource

theorem get : Resolves (MonadState.get : Resolver ExtendState) :=
  Yields.get

theorem set (next : ExtendState) : Resolves (MonadStateOf.set next) :=
  Yields.set trivial

theorem bind {resolver : Resolver α} {next : α → Resolver β} (first : Resolves resolver)
    (second : ∀ value, Resolves (next value)) : Resolves (resolver >>= next) :=
  Yields.bind first fun value _ => second value

theorem mapM {form : α → Resolver β} (each : ∀ item, Resolves (form item)) (items : List α) :
    Resolves (items.mapM form) :=
  Yields.mapM each items

theorem ite {condition : Prop} [Decidable condition] {first second : Resolver α}
    (here : Resolves first) (there : Resolves second) :
    Resolves (if condition then first else second) := by
  split
  · exact here
  · exact there

theorem lift {result : Except Fault α} (failsOnly : FailsOnly OfSource result) :
    Resolves (liftExcept result) := by
  cases result with
  | ok value => exact .pure value
  | error fault => exact .throw (failsOnly fault rfl)

end Resolves

section Statements

variable (settler : Settler)

private theorem resolves_resolveAt (position : Position) (expression : Expression String) :
    Resolves (resolveAt settler position expression) :=
  .lift (failsOnly_resolveExpression settler _ _ _ expression)

private theorem resolves_resolveBlockCall (position : Position) (call : Expression String) :
    Resolves (resolveBlockCall settler position call) := by
  unfold resolveBlockCall
  split
  · exact .lift (.bind (failsOnly_resolveExpression settler _ _ _ _) fun _ =>
      .bind (failsOnly_resolveArguments settler _ _ _ _ _) fun _ => .ok _)
  · exact resolves_resolveAt settler position _

private theorem resolves_resolvePart (position : Position) (part : OutputPart) :
    Resolves (resolvePart settler position part) := by
  unfold resolvePart
  split
  · exact .pure _
  · split
    · exact .pure _
    · exact .bind (resolves_resolveAt settler position _) fun _ => .pure _

private theorem resolves_resolveSignature (position : Position) (line : Nat)
    (name : Option String) (parameters : List String) (defaults : List (Expression String))
    (body : List Statement) :
    Resolves (resolveSignature settler position line name parameters defaults body) := by
  unfold resolveSignature
  extract_lets _ _ _ _ _ _ _ _ _ _ _ _ onward
  have further : ∀ done, Resolves (onward done) := by
    intro done
    refine .bind (.mapM (resolves_resolveAt settler _) defaults) fun defaults => ?_
    extract_lets distinct
    have slots : ∀ done, Resolves (distinct done) := fun _ =>
      .bind (.mapM (fun (parameter, index) =>
        .bind (.lift (failsOnly_slotOf _ parameter)) fun _ => .pure _) _) fun _ => .pure _
    exact .ite (.bind (.throw .malformedCode) slots) (slots ())
  exact .ite (.ite (.bind (.throw (.templateMeaning _ _)) further) (further ())) (further ())

private theorem resolves_resolveCondition (position : Position) (target : Target String)
    (condition? : Option (Expression String)) :
    Resolves (resolveCondition settler position target condition?) := by
  unfold resolveCondition
  split
  · exact .pure _
  · exact .bind (resolves_resolveAt settler _ _) fun _ => .pure _

/-- A loop is resolved where its two bodies are. -/
private theorem resolves_loop (line : Nat) (target : Target String) (items : Expression String)
    (condition? : Option (Expression String)) (recursive : Bool) (position : Position)
    {body otherwise : List Statement}
    (ofBody : ∀ inside, Resolves (resolveBody settler inside body))
    (ofOtherwise : ∀ inside, Resolves (resolveBody settler inside otherwise)) :
    Resolves (resolveStatement settler position
      (.loop line target items condition? recursive body otherwise)) := by
  unfold resolveStatement
  refine .bind (resolves_resolveCondition settler position target condition?) fun condition => ?_
  extract_lets _ _ _ _ allowed
  have allows : ∀ done, Resolves (allowed done) := by
    intro done
    refine .bind (.lift (failsOnly_resolveTarget _ target)) fun slots => ?_
    extract_lets entered
    have enters : ∀ early, Resolves (entered early) := by
      intro early
      refine .bind (ofBody _) fun steps => ?_
      extract_lets ended
      have ends : ∀ last, Resolves (ended last) := by
        intro last
        unfold ended
        split
        · exact .bind (.pure _) fun _ => .pure _
        · exact .bind (resolves_resolveAt settler position items) fun _ => .pure _
      exact .ite (.bind (.pure _) ends) (.bind (ofOtherwise _) fun _ => .bind (.pure _) ends)
    exact .ite (.bind (.pure _) enters)
      (.bind (resolves_resolveAt settler position items) fun _ => .bind (.pure _) enters)
  split
  · exact .bind (.throw (.templateMeaning _ _)) allows
  · exact allows ()

mutual

private theorem resolves_resolveStatement (position : Position) :
    ∀ statement, Resolves (resolveStatement settler position statement)
  | .output parts => by
    unfold resolveStatement
    exact .bind .get fun state => .ite (.pure _)
      (.bind (.mapM (resolves_resolvePart settler position) parts) fun _ => .pure _)
  | .conditional branches otherwise => by
    unfold resolveStatement
    exact .bind (resolves_resolveBranches _ branches) fun _ =>
      .bind (resolves_resolveBody _ otherwise) fun _ => .pure _
  | .loop line target items condition recursive body otherwise =>
    resolves_loop settler line target items condition recursive position
      (fun inside => resolves_resolveBody inside body)
      (fun inside => resolves_resolveBody inside otherwise)
  | .assign target value => by
    unfold resolveStatement
    exact .bind (.lift (failsOnly_resolveTarget _ target)) fun _ =>
      .bind (resolves_resolveAt settler position value) fun _ =>
        .bind (.lift (failsOnly_publishedNames position target)) fun _ => .pure _
  | .assignBlock target filter body => by
    unfold resolveStatement
    refine .bind (resolves_resolveBody _ body) fun steps =>
      .bind (.lift (failsOnly_resolveTarget _ target)) fun slots => ?_
    extract_lets onward
    have further : ∀ filter, Resolves (onward filter) := fun _ =>
      .bind (.lift (failsOnly_publishedNames position target)) fun _ => .pure _
    split
    · exact .bind (.pure _) further
    · exact .bind (resolves_resolveAt settler _ _) fun _ => .bind (.pure _) further
  | .bind bindings body => by
    unfold resolveStatement
    refine .bind (.mapM (fun (target, value) => ?_) bindings) fun _ =>
      .bind (resolves_resolveBody _ body) fun _ => .pure _
    exact .bind (.lift (failsOnly_resolveTarget _ target)) fun _ =>
      .bind (resolves_resolveAt settler position value) fun _ => .pure _
  | .routine line name parameters defaults body => by
    unfold resolveStatement
    exact .bind (resolves_resolveSignature settler position line _ _ _ _) fun (_, inside) =>
      .bind (resolves_resolveBody inside body) fun _ =>
        .bind (.lift (failsOnly_slotOf _ name)) fun _ => .pure _
  | .callBlock line parameters defaults call body => by
    unfold resolveStatement
    exact .bind (resolves_resolveSignature settler position line _ _ _ _) fun (_, inside) =>
      .bind (resolves_resolveBody inside body) fun _ =>
        .bind (resolves_resolveBlockCall settler position call) fun _ => .pure _
  | .filterBlock filter body => by
    unfold resolveStatement
    exact .bind (resolves_resolveBody _ body) fun _ =>
      .bind (resolves_resolveAt settler _ filter) fun _ => .pure _
  | .block _ name isScoped isRequired _ => by
    unfold resolveStatement
    exact .bind .get fun _ => .ite (.pure _) (.pure _)
  | .extend line template => by
    unfold resolveStatement
    extract_lets onward
    have further : ∀ done, Resolves (onward done) := fun _ =>
      .bind .get fun _ => .ite (.pure _)
        (.bind (resolves_resolveAt settler position template) fun _ =>
          .bind (.set _) fun _ => .pure _)
    exact .ite (.bind (.throw (.templateMeaning _ _)) further) (further ())
  | .embed template _ _ => by
    unfold resolveStatement
    exact .bind (resolves_resolveAt settler position template) fun _ => .pure _
  | .importAs template target _ => by
    unfold resolveStatement
    exact .bind (resolves_resolveAt settler position template) fun _ =>
      .bind (.lift (failsOnly_slotOf _ target)) fun _ => .pure _
  | .importNames line template names _ => by
    unfold resolveStatement
    refine .bind (resolves_resolveAt settler position template) fun _ =>
      .bind (.mapM (fun (name, alias_) => ?_) names) fun _ => .pure _
    exact .bind (.lift (failsOnly_slotOf _ alias_)) fun _ => .pure _
  | .escaping value body => by
    unfold resolveStatement
    exact .bind (resolves_resolveAt settler _ value) fun _ =>
      .bind (resolves_resolveSequence _ body) fun _ => .pure _

private theorem resolves_resolveBody (position : Position) :
    ∀ body, Resolves (resolveBody settler position body)
  | [] => by
    unfold resolveBody
    exact .pure _
  | statement :: statements => by
    unfold resolveBody
    exact .bind (resolves_resolveStatement position statement) fun (_, _) =>
      .ite (.pure _) (.bind (resolves_resolveBody position statements) fun _ => .pure _)

private theorem resolves_resolveSequence (position : Position) :
    ∀ body, Resolves (resolveSequence settler position body)
  | [] => by
    unfold resolveSequence
    exact .pure _
  | statement :: statements => by
    unfold resolveSequence
    exact .bind (resolves_resolveStatement position statement) fun (_, _) =>
      .bind (resolves_resolveSequence position statements) fun _ => .pure _

private theorem resolves_resolveBranches (position : Position) :
    ∀ branches, Resolves (resolveBranches settler position branches)
  | [] => by
    unfold resolveBranches
    exact .pure _
  | (condition, body) :: rest => by
    unfold resolveBranches
    exact .bind (resolves_resolveAt settler position condition) fun _ =>
      .bind (resolves_resolveBody position body) fun _ =>
        .bind (resolves_resolveBranches position rest) fun _ => .pure _

end

private theorem resolves_resolveSection (wanted : List String) (position : Position)
    (body : List Statement) : Resolves (resolveSection settler wanted position body) :=
  .bind (resolves_resolveBody settler _ body) fun _ => .pure _

/-- Statements that make up no program are refused with a fault of the text. -/
theorem failsOnly_resolveTemplate (name : String) (statements : List Statement) :
    FailsOnly OfSource (resolveTemplate settler name statements) := by
  intro fault failed
  unfold resolveTemplate at failed
  extract_lets _ _ _ onward whole at failed
  have resolves : Resolves whole := by
    have further : ∀ done, Resolves (onward done) := fun _ =>
      .bind (resolves_resolveSection settler _ _ _) fun _ =>
        .bind (.mapM (fun block =>
          .bind (resolves_resolveSection settler _ _ _) fun _ => .pure _) _) fun _ => .pure _
    unfold whole
    split
    · exact .bind (.throw (.templateMeaning _ _)) further
    · exact further ()
  split at failed
  · cases failed
  · next ended =>
    cases failed
    exact Yields.of_error resolves ended trivial

end Statements

/-- A template is compiled, or its text is at fault. -/
theorem failsOnly_compile (delimiters : Delimiters) (name : String) (source : List Char) :
    FailsOnly OfSource (compile delimiters name source) :=
  .bind (failsOnly_parse delimiters source) fun statements =>
    failsOnly_resolveTemplate settler name statements

end Stencil.Template
