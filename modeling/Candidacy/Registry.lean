import Candidacy.Dossier
import Candidacy.Text.Blank
import Candidacy.Text.Lowercase

/-!
What a keeper of applicants has to offer.
-/

namespace Candidacy

/-- An applicant with the newest verdict on each task. -/
structure Applicant where
  id : String
  email : String
  verdicts : Table Verdict

inductive RegistryError
  | duplicateEmail (email : String)
  | unknownApplicant (id : String)
  | storage (reason : String)
deriving DecidableEq

def RegistryError.message : RegistryError → String
  | .duplicateEmail email => "Ya existe un usuario con el email: " ++ email
  | .unknownApplicant id => "Usuario no encontrado: " ++ id
  | .storage reason => "Error de almacenamiento: " ++ reason

/-- The form in which emails are compared: without white space around it, in lower case. -/
def normalEmail (email : String) : String :=
  Text.lower (Text.trim email)

/-- States that keep applicants. A failed operation leaves the state as it was. -/
class Registry (σ : Type) where
  /-- Takes in an applicant under a new id. -/
  register : σ → String → Except RegistryError (Applicant × σ)
  applicant? : σ → String → Except RegistryError (Option Applicant)
  /-- All applicants, in the order of their numbers. -/
  applicants : σ → Except RegistryError (List Applicant)
  /-- The verdicts on an applicant; there are none on an unknown one. -/
  dossier : σ → String → Except RegistryError Dossier
  /-- Files a verdict on a known applicant. -/
  file : σ → String → Verdict → Except RegistryError σ

namespace Registry

variable {σ : Type} [Registry σ]

def knows (state : σ) (id : String) : Except RegistryError Bool :=
  (applicant? state id).map Option.isSome

/-- The operations of a registry. -/
inductive Operation
  | register
  | find
  | list
  | dossier
  | file
deriving DecidableEq

/-- A registry of which some operations fail, each for a reason of its own. -/
structure Unreliable (σ : Type) where
  state : σ
  failing : Operation → Option String

namespace Unreliable

def reliable (state : σ) : Unreliable σ := ⟨state, fun _ => none⟩

/-- From now on the operation fails. -/
def fail (registry : Unreliable σ) (operation : Operation) (reason : String) : Unreliable σ :=
  { registry with
    failing := fun other => if other = operation then some reason else registry.failing other }

/-- From now on nothing fails. -/
def heal (registry : Unreliable σ) : Unreliable σ :=
  reliable registry.state

def guarded (registry : Unreliable σ) (operation : Operation)
    (result : Except RegistryError α) : Except RegistryError α :=
  match registry.failing operation with
  | some reason => .error (.storage reason)
  | none => result

instance : Registry (Unreliable σ) where
  register registry email := registry.guarded .register
    ((register registry.state email).map fun (applicant, state) =>
      (applicant, { registry with state }))
  applicant? registry id := registry.guarded .find (applicant? registry.state id)
  applicants registry := registry.guarded .list (applicants registry.state)
  dossier registry id := registry.guarded .dossier (Registry.dossier registry.state id)
  file registry id verdict := registry.guarded .file
    ((file registry.state id verdict).map fun state => { registry with state })

end Unreliable

end Registry

end Candidacy
