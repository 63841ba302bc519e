import Candidacy.Flow.Loading
import Candidacy.Registry

/-!
Why a request is refused. Refusals that the requester can do something about say so in full; of the
others only a general remark is shown.
-/

namespace Candidacy

/-- A state that the rules of flows and registries exclude. -/
inductive Breakdown
  | taskWithoutStep (id : String)
  | taskNotShown (id step : String)
  | stated (reason : String)
deriving DecidableEq

def Breakdown.message : Breakdown → String
  | .taskWithoutStep id => "La tarea '" ++ id ++ "' no pertenece a ningún paso"
  | .taskNotShown id step => "La tarea '" ++ id ++ "' no es visible en el paso '" ++ step ++ "'"
  | .stated reason => reason

inductive Refusal
  | unknownApplicant (id : String)
  | duplicateEmail (email : String)
  /-- No task that is shown has this identifier. -/
  | unknownTask (identifier : String)
  | missingFields (task : String) (missing : NameSet)
  | outOfOrder (task prerequisite : String)
  | alreadyDone (task : String)
  | flow (error : LoadError)
  | breakdown (cause : Breakdown)
deriving DecidableEq

namespace Refusal

def message : Refusal → String
  | .unknownApplicant id => "Usuario no encontrado: " ++ id
  | .duplicateEmail email => "Ya existe un usuario con el email: " ++ email
  | .unknownTask identifier => "Tarea no encontrada: " ++ identifier
  | .missingFields task missing =>
      "A la tarea '" ++ task ++ "' le faltan campos requeridos: " ++
        ", ".intercalate missing.names
  | .outOfOrder task prerequisite =>
      "No se puede completar la tarea '" ++ task ++ "' antes de completar la tarea previa '" ++
        prerequisite ++ "'"
  | .alreadyDone task => "La tarea '" ++ task ++ "' ya fue completada"
  | .flow error => "Error de flujo: " ++ error.message
  | .breakdown cause => "Error interno: " ++ cause.message

/-- The requester can do something about it. -/
def isRecoverable : Refusal → Bool
  | .flow _ | .breakdown _ => false
  | _ => true

/-- What the requester is told. -/
def publicMessage (refusal : Refusal) : String :=
  if refusal.isRecoverable then refusal.message else "Ocurrió un error interno"

def ofRegistry : RegistryError → Refusal
  | .duplicateEmail email => .duplicateEmail email
  | .unknownApplicant id => .unknownApplicant id
  | .storage reason => .breakdown (.stated reason)

end Refusal

end Candidacy
