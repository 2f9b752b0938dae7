import Stencil.Project
import Stencil.Proofs.Toml.Document

/-!
# Names in descriptors

What a descriptor says of a project never has a name twice.
-/

namespace Stencil

open Outcome
open Data (Table)

theorem Toml.distinct_of_readBytes {bytes : ByteArray} {table : Table}
    (given : readBytes bytes = .ok table) : table.Distinct := by
  unfold readBytes at given
  split at given
  · exact distinct_of_read given
  · cases given

namespace Project

variable {files : Files.Tree} {root descriptor : Path} {table : Table}

theorem distinct_readDescriptor (read : readDescriptor files descriptor = .ok table) :
    table.Distinct := by
  unfold readDescriptor at read
  rcases except_bind_eq_ok_iff.mp read with ⟨isFile, -, read⟩
  cases isFile with
  | false =>
    cases read
    exact .nil
  | true =>
    cases document : files.read descriptor >>= Toml.readBytes with
    | ok found =>
      simp only [document] at read
      cases read
      rcases except_bind_eq_ok_iff.mp document with ⟨bytes, -, given⟩
      exact Toml.distinct_of_readBytes given
    | error fault =>
      simp only [document] at read
      cases reading : isReadingFault fault with
      | true =>
        rw [reading] at read
        cases read
      | false =>
        rw [reading] at read
        cases read

theorem distinct_innerTable {title name : String} {around : Table} (distinct : around.Distinct)
    (found : innerTable descriptor title name around = .ok table) : table.Distinct := by
  unfold innerTable at found
  cases item : around.lookup name with
  | none =>
    rw [item] at found
    cases found
    exact .nil
  | some known =>
    rw [item] at found
    cases known with
    | table entries =>
      cases found
      exact (distinct.of_lookup item).of_table
    | _ => cases found

theorem distinct_settingsTable (found : settingsTable files root = .ok table) :
    table.Distinct := by
  unfold settingsTable toolTable at found
  rcases except_bind_eq_ok_iff.mp found with ⟨tools, isTools, same⟩
  cases same
  rcases except_bind_eq_ok_iff.mp isTools with ⟨document, isDocument, isTools⟩
  rcases except_bind_eq_ok_iff.mp isTools with ⟨tool, isTool, isTools⟩
  apply Table.Distinct.filter
  exact distinct_innerTable (distinct_innerTable (distinct_readDescriptor isDocument) isTool)
    isTools

end Project

end Stencil
