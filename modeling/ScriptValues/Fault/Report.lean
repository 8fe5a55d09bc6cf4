import ScriptValues.Fault.Basic

/-! Reports: a code, a message and sometimes a help line. -/

namespace ScriptValues

structure Report where
  code? : Option String
  message : String
  help? : Option String

def Fault.report (fault : Fault) : Report := ⟨fault.code?, fault.message, fault.help?⟩

def Refusal.report (refusal : Refusal) : Report := ⟨some refusal.code, refusal.message, none⟩

end ScriptValues
