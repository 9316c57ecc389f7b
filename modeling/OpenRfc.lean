import OpenRfc.Pool.Waiting
import OpenRfc.Pool.Attention
import OpenRfc.Transaction.Control
import OpenRfc.Metadata.Orphans
import OpenRfc.DirectCpic.Reset
import OpenRfc.SapRouter.Integrity
import OpenRfc.Destination.Settlement
import OpenRfc.Ni.Delivery
import OpenRfc.Tunnel.Socks5Handshake
import OpenRfc.Ni.Chunking
import OpenRfc.Appc.Messages
import OpenRfc.FastSerializer.Discrimination
import OpenRfc.ErrorEnvelope.Classification
import OpenRfc.Callback.RequestFidelity
import OpenRfc.Cpic.ChainRoundTrip
import OpenRfc.Cpic.FunctionRequest
import OpenRfc.Cpic.LogonResponse
import OpenRfc.Xrfc.ClassicRoundTrip
import OpenRfc.Appc.CompactTail
import OpenRfc.Lz4.InPlace
import OpenRfc.Lz4.Bound
import OpenRfc.Values.TemporalBijection
import OpenRfc.Xrfc.RecursiveDecision
import OpenRfc.Classic.ResultFlattening
import OpenRfc.Setup.Gateway
import OpenRfc.RecursiveClassic.SharedIndex
import OpenRfc.RecursiveClassic.Preflight
import OpenRfc.Structures.Delivery
import OpenRfc.ModernMetadata.Exactness
import OpenRfc.Setup.PasswordScramble
import OpenRfc.Values.PackedMeaning
import OpenRfc.Xrfc.EntityText
import OpenRfc.Diagnostics.Delivery
import OpenRfc.Connection.Agreement
import OpenRfc.Connection.Shadowing
