import ChunkCodecs.Fault

/-!
# Alarms

A call of a backing library fails in one of two ways. Either the library reports a
failure of its own, which becomes a fault of the codec that called it; or something
else goes wrong, which passes through unchanged.
-/

namespace ChunkCodecs

/-- How a call of a library fails. -/
inductive Alarm where
  /-- The library reports a failure of its own. -/
  | reported (text : String)
  /-- Something else goes wrong in the call. -/
  | escaped (cause : ForeignFault)

/-- The fault that an alarm amounts to, where reports are told by a rule. -/
def Alarm.toFault (alarm : Alarm) (tell : String → NativeFault) : Fault :=
  match alarm with
  | .reported text => .native (tell text)
  | .escaped cause => .foreign cause

end ChunkCodecs
