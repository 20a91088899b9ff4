import Stepbook.Encoding
import Stepbook.Toml

/-!
# Hosts

Some of what a run can read is up to the machine that it runs on: the codecs
there are and their names, and how far its call stack reaches.

## Main definitions

* `Host` — what is up to the machine.

## Design notes

A run is a function of its host, as it is of the file tree, and what is stated of
a run for every tree is stated for every host.  The defaults describe a plain
host: it has the six encodings that are written out, and its call stack of a
thousand frames is empty where a search or the reading of a configuration
starts.  In a run that is started from a command line some frames are in use by
then, so both limits are lower.
-/

namespace Stepbook

/-- What is up to the machine that a program runs on. -/
structure Host where
  /-- The codec of a name, if there is one. -/
  codec? : String → Option Codec := fun name => (Encoding.ofName? name).map Encoding.codec
  /-- How deep directories may nest below one that is searched. -/
  searchDepth : Nat := 986
  /-- The limits for values in a configuration. -/
  toml : Toml.Limits := {}

end Stepbook
