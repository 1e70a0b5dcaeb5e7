import Fluoride.ByteBuffer
import Fluoride.Runs
import Fluoride.Segments
import Fluoride.BtHdr
import Fluoride.PacketFragmenter
import Fluoride.AclFragmentation
import Fluoride.AclReassembly
import Fluoride.RfcommFrames
import Fluoride.RfcommUih
import Fluoride.L2capBuffers
import Fluoride.LeCocSegmentation
import Fluoride.LeCocReassembly
import Fluoride.ErtmChannel
import Fluoride.SeqWindow
import Fluoride.ErtmReceive
import Fluoride.ErtmAcks
import Fluoride.ErtmWindow
import Fluoride.BoundedFifo
import Fluoride.Ringbuffer
import Fluoride.RfcommMx
import Fluoride.AvdtpMsg
import Fluoride.AvdtpParse
import Fluoride.AvdtpInd
import Fluoride.AvctLcb
import Fluoride.HciCommands
import Fluoride.SarReassembly
import Fluoride.OsiConfig
import Fluoride.GattPerm
import Fluoride.AttProtocol
import Fluoride.GattReadMulti
import Fluoride.GattReadByType
import Fluoride.GattDiscovery
import Fluoride.GattServiceDb
import Fluoride.GattServiceLayout
import Fluoride.BnepData
import Fluoride.L2capSignal
import Fluoride.AvdtpCfg
import Fluoride.SdpSeq
import Fluoride.SdpServerDb
import Fluoride.SdpServerStore
import Fluoride.Octets
import Fluoride.AvrcpPacket
import Fluoride.AvrcpResponse
import Fluoride.GattWriteLong
import Fluoride.Crc
import Fluoride.Fcs
import Fluoride.Bits
import Fluoride.PacketBits
import Fluoride.CText
import Fluoride.TextIds
import Fluoride.Limbs
import Fluoride.Multprecision
import Fluoride.AesCmac
import Fluoride.Cmac
import Fluoride.AesCmacRefines
import Fluoride.AgAtParse
import Fluoride.HfClientAt
import Fluoride.GdPacketView
import Fluoride.A2dpSbc
