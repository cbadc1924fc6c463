import WirelessSelection.Radio.Capabilities

namespace WirelessSelection

inductive Security
  | unsecured
  | wep
  | psk
  | sae
  | eap
  deriving DecidableEq, Repr

namespace Security

/-- The profile that advertised mechanisms call for. A shared key goes before SAE, so that networks
in transition between the two match profiles of the older one. -/
def ofCapabilities (c : Capabilities) : Security :=
  if c.contains .psk then psk
  else if c.contains .sae then sae
  else if c.contains .eap then eap
  else if c.contains .wep then wep
  else unsecured

def keyManagement : Security → String
  | unsecured => "NONE"
  | wep => "WEP"
  | psk => "WPA_PSK"
  | sae => "SAE"
  | eap => "WPA_EAP"

end Security

end WirelessSelection
