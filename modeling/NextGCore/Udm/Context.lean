import NextGCore.Sbi.Message
import NextGCore.Sbi.UeContext

/-!
# The UE context of the UDM

The fields of `UdmUe` that authentication and AMF registration read or write.
De-concealing a SUCI needs the home network keys and ECIES; it is a parameter,
a function of the text alone because the keys are provisioned at start-up.
-/

namespace NextGCore.Udm

open Sbi

structure UdmUe where
  id : ℕ
  suci : String
  supi : Option String
  servingNetworkName : Option String
  amfInstanceId : Option String
  deregCallbackUri : Option String
  k : Vector UInt8 16
  opc : Vector UInt8 16
  amf : Vector UInt8 2
  rand : Vector UInt8 16
  sqn : Vector UInt8 6

def UdmUe.new (id : ℕ) (suci : String) (supi : Option String) : UdmUe where
  id := id
  suci := suci
  supi := supi
  servingNetworkName := none
  amfInstanceId := none
  deregCallbackUri := none
  k := .replicate 16 0
  opc := .replicate 16 0
  amf := .replicate 2 0
  rand := .replicate 16 0
  sqn := .replicate 6 0

instance : UeRecord UdmUe where
  id := UdmUe.id
  suci := UdmUe.suci
  supi := UdmUe.supi
  withSupi ue supi := { ue with supi := some supi }
  id_withSupi _ _ := rfl

abbrev UdmContext := UeContext UdmUe

def UdmContext.ueAdd (context : UdmContext) (deconcealSuci : String → Option String)
  (suci : String) : Option (UdmContext × UdmUe) :=
  UeContext.ueAdd context (fun id => UdmUe.new id suci (deconcealSuci suci)) (fun _ => rfl)

end NextGCore.Udm
