import BtcSignTx.Messages
import BtcSignTx.Encoding
import BtcSignTx.Session
import BtcSignTx.Wp
import BtcSignTx.Requests
import BtcSignTx.HandlePrevtx
import BtcSignTx.Process
import BtcSignTx.PrevTx
import BtcSignTx.PrevtxVerify
import BtcSignTx.PrevtxParse
import BtcSignTx.Protocol
import BtcSignTx.Failures
import BtcSignTx.LogFacts
import BtcSignTx.HonestHost
import BtcSignTx.SessionProtocol
import BtcSignTx.SessionResults
