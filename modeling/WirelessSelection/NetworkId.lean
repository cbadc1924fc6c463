namespace WirelessSelection

abbrev NetworkId := UInt32

namespace NetworkId

def last : NetworkId := 4294967295

def text (id : NetworkId) : String :=
  toString id.toNat

end NetworkId

end WirelessSelection
