import ValidatorSigner.Proofs.Protection.Related

/-! # What requests leave alone

A part of the tables that no write of a request reaches is the same after the request, whatever the tables hold
and whatever comes of it.
-/
namespace ValidatorSigner.Protection
open Store Telemetry

namespace Request
variable {α γ : Type} {view : Tables → γ}

/-- However it ends, a request leaves a part of the tables as it is. -/
def Keeps (view : Tables → γ) (x : Request α) : Prop := ∀ e, view (x e).2.tables = view e.tables

def SameView (view : Tables → γ) (db db' : Database) : Prop := view db'.tables = view db.tables

instance isPreorder_sameView (view : Tables → γ) : IsPreorder Database (SameView view) where
  refl _ := rfl
  trans _ _ _ h₁ h₂ := Eq.trans h₂ h₁

theorem keeps_of_relates {x : Request α} (h : Relates (SameView view) x) : Keeps view x := h

theorem Keeps.answered {x : Request α} (hx : Keeps view x) (form : α → Answer) :
    Keeps view (Request.answered form x) := by
  intro e
  rw [answered_apply]
  exact hx e

theorem keeps_resolveValidator (henrol : ∀ t key, view (Tables.addValidator t key) = view t) (key : PublicKey) :
    Keeps view (resolveValidator key) :=
  keeps_of_relates (relates_resolveValidator (fun _ key _ => henrol _ key) key)

theorem keeps_registerValidators (henrol : ∀ t key, view (Tables.addValidator t key) = view t)
    (keys : List PublicKey) : Keeps view (registerValidators keys) :=
  keeps_of_relates (relates_registerValidators (fun _ key _ => henrol _ key) keys)

theorem keeps_validatorId (key : PublicKey) : Keeps view (validatorId key) :=
  keeps_of_relates (relates_validatorId key)

theorem keeps_allIds : Keeps view allIds := keeps_of_relates relates_allIds

theorem keeps_genesisExists : Keeps view genesisExists := keeps_of_relates relates_genesisExists

theorem keeps_checkGenesis {root : Root} (hbind : ∀ t, view (bound t root) = view t) :
    Keeps view (checkGenesis root) := keeps_of_relates (relates_checkGenesis fun _ _ => hbind _)

theorem keeps_maySignBlock {genesis : Option Root} (hbind : ∀ root ∈ genesis, ∀ t, view (bound t root) = view t)
    (hadd : ∀ t row, view (Tables.addBlock t row) = view t) (c : BlockProposal) :
    Keeps view (maySignBlock genesis c) :=
  keeps_of_relates (relates_maySignBlock (fun root hroot _ _ => hbind root hroot _) (fun _ _ => hadd _ _) c)

theorem keeps_maySignAttestation {genesis : Option Root}
    (hbind : ∀ root ∈ genesis, ∀ t, view (bound t root) = view t)
    (hadd : ∀ t row, view (Tables.addAttestation t row) = view t) (c : Attestation) :
    Keeps view (maySignAttestation genesis c) :=
  keeps_of_relates (relates_maySignAttestation (fun root hroot _ _ => hbind root hroot _) (fun _ _ => hadd _ _) c)

end Request
end ValidatorSigner.Protection
