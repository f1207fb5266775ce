import NextGCore.Nas.Channel
import NextGCore.Amf.VerifyThenCommit
import NextGCore.Amf.DecoderAgreement
import NextGCore.Amf.NasReplay
import NextGCore.Amf.IndexCoherence
import NextGCore.Udm.ServingAmf
import NextGCore.Udm.VectorFreshness
import NextGCore.Udm.AckSingleUse
import NextGCore.Udm.SuciConcealment
import NextGCore.Ausf.AnchorCounters
import NextGCore.Ausf.ExpectedResponse
import NextGCore.Ausf.ChallengeResponse
import NextGCore.Ausf.UeIndices
import NextGCore.Smf.IndexCoherence
import NextGCore.Smf.AddressLeases
import NextGCore.Smf.EpcEstablishment
import NextGCore.Nas.UePolicy.Strictness
import NextGCore.Sepp.KeyAgreement
import NextGCore.Sepp.RoundTrip
import NextGCore.Sepp.Confidentiality
import NextGCore.Sepp.ReceiverSoundness
import NextGCore.Udr.Restart
import NextGCore.Hss.Air
import NextGCore.Sbi.OAuth
import NextGCore.Pcf.Cascade
import NextGCore.Diameter.PeerSafety
import NextGCore.Diameter.Keepalive
import NextGCore.Diameter.Transport
import NextGCore.Diameter.Correlation
import NextGCore.Gtp.MessageFraming
import NextGCore.Upf.UsageConservation
import NextGCore.Upf.UplinkAdmission
import NextGCore.Upf.PartialUpdate
import NextGCore.Upf.AssociationScope
import NextGCore.Asn1c.PerSafety
import NextGCore.Ausf.EapParsing
import NextGCore.Nsacf.AdmissionLimits
import NextGCore.Nsacf.Releases
import NextGCore.Nsacf.EacMode
import NextGCore.Nsacf.Restart
import NextGCore.Core.TimerExpiry
import NextGCore.Pfcp.HostileInput
import NextGCore.Pfcp.RoundTrip
import NextGCore.Udm.HexText
import NextGCore.Upf.DscpMarking
import NextGCore.Upf.FramedRoutes
import NextGCore.Upf.DownlinkBuffer
import NextGCore.Upf.ReportCollection
import NextGCore.Upf.PdrSelection
import NextGCore.Upf.PacketSession
import NextGCore.Upf.N4Agreement
import NextGCore.Bsf.AllOrNothing
import NextGCore.Bsf.DateTime
import NextGCore.Bsf.Discovery
import NextGCore.Core.LockFree
import NextGCore.Core.Pool
import NextGCore.Upf.GtpuPath
import NextGCore.Core.Tlv
import NextGCore.Nas.Framing
import NextGCore.Ipfw.RoundTrip
import NextGCore.Ipfw.PacketFilter
import NextGCore.Udr.MergePatch
import NextGCore.Udr.ResourceUris
import NextGCore.Smf.Ipv6PrefixPool
import NextGCore.Gtp.Xact
import NextGCore.Gtp.TeidPool
import NextGCore.Sepp.X509
import NextGCore.Sepp.SendSequence
