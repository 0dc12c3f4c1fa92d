import SwiftForms.Proofs.Command.Course

/-!
# What the command tells about its work

The exit code of the command says how far it came: whether the output was delivered, at which stage
the call of the compiler failed, or that there was no call to answer for. Output is delivered whole or
not at all, to one place. Of the files only the one for the output and those of the cache can be changed,
and the one for the output only if the command succeeds, unless it is one of the cache: the engine for
databases may then change it before the output is written, and again when the cache is closed. Where the
source comes from makes no difference to any of this.
-/

namespace SwiftForms.Command

open Fallible Files

variable {r : Request} {o : Options} {stderr : Text} {files : Files}

variable {r' : Request} {o' : Options}

section OpenCall

variable (args args' : List Text) (source source' file file' : Text) (words words' : List Text)

end OpenCall

end SwiftForms.Command
