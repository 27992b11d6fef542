import CashShop.Draft
import CashShop.View

namespace CashShop

def Decoration.ofLookup {α : Type} : Except Fault (Option α) → Decoration α
  | .ok (some a) => resolved a
  | .ok none => absent
  | .error f => unavailable f.message

namespace Draft

def assetView (d : Draft) (a : Asset) : AssetView := ⟨a, .ofLookup (d.item? a.item)⟩

def assetViews (d : Draft) (c : CompartmentId) : Except Fault (List AssetView) :=
  (d.assetsIn c).map (·.map d.assetView)

def compartmentView (d : Draft) (c : Compartment) : CompartmentView :=
  ⟨c, match d.assetViews c.id with
    | .ok views => .resolved views
    | .error f => .unavailable f.message⟩

end Draft

namespace Query

def wallet? (s : Store) (a : AccountId) : Option Wallet := (Draft.begin s).wallet? a

def item? (s : Store) (i : ItemId) : Except WorkflowError (Option Item) := ((Draft.begin s).item? i).mapError .internal

def compartments (s : Store) (a : AccountId) : List CompartmentView :=
  let d := Draft.begin s
  (d.compartmentsOf a).map d.compartmentView

def compartment? (s : Store) (c : CompartmentId) : Option CompartmentView :=
  let d := Draft.begin s
  (d.compartment? c).map d.compartmentView

def asset? (s : Store) (a : AssetId) : Option AssetView :=
  let d := Draft.begin s
  (d.asset? a).map d.assetView

end Query

end CashShop
