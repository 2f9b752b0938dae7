import Stencil.Engine
import Stencil.Proofs.Act

/-!
# Renderings and the files

An engine by itself never changes a file.  A rendering that may do so has a quiet counterpart,
which takes back what was done to the files; the two are the same wherever nothing was done.
-/

namespace Stencil

open Outcome

namespace Engine

theorem sameFiles_load (engine : Template.Engine) (name : String) :
    Moves Act.SameFiles (load engine name) :=
  fun world => Act.sameFiles_onMachine _ world

theorem sameFiles_render (engine : Template.Engine) (place : Nat) (model : Value) :
    Moves Act.SameFiles (render engine place model) :=
  fun world => Act.sameFiles_onMachine _ world

end Engine

namespace Rendering

/-- Rendering never changes a file. -/
class IsQuiet (rendering : Rendering) : Prop where
  sameFiles (engine : Template.Engine) (place : Nat) (model : Value) :
    Moves Act.SameFiles (rendering.render engine place model)

instance isQuiet_alone : alone.IsQuiet where
  sameFiles := Engine.sameFiles_render

/-- A result in which the files are others. -/
def withFiles (files : Files.Tree) :
    EStateM.Result Failure World Text → EStateM.Result Failure World Text
  | .ok text after => .ok text { after with files }
  | .error failure after => .error failure { after with files }

/-- The rendering that takes back what is done to the files. -/
@[reducible]
def quieted (rendering : Rendering) : Rendering where
  render engine place model world :=
    withFiles world.files (rendering.render engine place model world)
  unforeseen {engine place model world after failure} failed := by
    cases ended : rendering.render engine place model world with
    | ok text finish =>
      rw [ended] at failed
      cases failed
    | error other finish =>
      rw [ended] at failed
      cases failed
      exact rendering.unforeseen ended

variable (rendering : Rendering) {engine : Template.Engine} {place : Nat} {model : Value}
  {world after : World}

instance isQuiet_quieted : rendering.quieted.IsQuiet where
  sameFiles engine place model world := by
    show Act.SameFiles world (left (withFiles world.files _))
    cases rendering.render engine place model world <;> rfl

/-- Where nothing is done to the files, nothing is taken back. -/
theorem quieted_render
    (same : (left (rendering.render engine place model world)).files = world.files) :
    rendering.quieted.render engine place model world =
      rendering.render engine place model world := by
  show withFiles world.files _ = _
  rw [← same]
  cases rendering.render engine place model world <;> rfl

/-- The text that is given is the same in any case. -/
theorem exists_of_quieted_render {text : Text}
    (rendered : rendering.quieted.render engine place model world = .ok text after) :
    ∃ finish, rendering.render engine place model world = .ok text finish := by
  cases ended : rendering.render engine place model world with
  | ok given finish =>
    have taken : withFiles world.files (.ok given finish) = .ok text after := ended ▸ rendered
    cases taken
    exact ⟨finish, rfl⟩
  | error failure finish =>
    have taken : withFiles world.files (.error failure finish) = .ok text after :=
      ended ▸ rendered
    cases taken

end Rendering

end Stencil
