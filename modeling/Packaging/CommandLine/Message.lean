import Packaging.Text.Terminal

/-! # Messages

A message tells how a run goes on. It comes from a part of the program, whose name is a path of
names: the front of a path names a larger part. -/

namespace Packaging.CommandLine

/-- The parts of the program that have messages. -/
inductive Part where
  /-- The command that prints a matrix. -/
  | matrixCommand
  /-- The command that makes a release. -/
  | releaseCommand
  /-- The making of a matrix. -/
  | matrix
  /-- The assembling of a release. -/
  | release
  deriving DecidableEq

/-- The name of a part. -/
def Part.name : Part → String
  | matrixCommand => "tiledb_pkg::cmd::matrix"
  | releaseCommand => "tiledb_pkg::cmd::release"
  | matrix => "tiledb_pkg_core::matrix"
  | release => "tiledb_pkg_core::release"

/-- A message of a part. -/
structure Message where
  part : Part
  text : String
  deriving DecidableEq

/-- A message as it is shown on a terminal. -/
def Message.shown (m : Message) : String := Text.onTerminal m.text

end Packaging.CommandLine
