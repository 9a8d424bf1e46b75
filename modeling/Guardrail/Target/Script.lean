import Guardrail.Target.Basic

/-!
# Scripted targets

A target that answers from a script, one reply after another, whatever it is asked. Its state is
what is left of the script. Answers in chunks do not use the script up.
-/

namespace Guardrail.Target

/-- A reply: an answer or a failure. -/
abbrev Reply := Except GenerationError Response

/-- What a scripted target does besides giving the replies of its script. -/
structure Script where
  name : String
  mode : Mode
  provider : Option String
  /-- The reply after the last one of the script. -/
  afterwards : Reply
  /-- What an answer in chunks consists of, if the target gives such answers. -/
  chunks : Option (Except Error (List Chunk))

namespace Script

/-- The failure at the end of a script. -/
def exhausted : GenerationError := ⟨"mock script exhausted", false⟩

/-- The target that answers from a script (`MockLlm`). -/
def target (s : Script) : Target (List Reply) where
  name := s.name
  mode := s.mode
  provider := s.provider
  generate _ := fun
    | [] => (s.afterwards, [])
    | reply :: rest => (reply, rest)
  chunks? := s.chunks.map fun opened _ rest => (opened, rest)

end Script
end Guardrail.Target
