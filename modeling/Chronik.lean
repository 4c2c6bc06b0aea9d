import Chronik.Protobuf.Writer
import Chronik.Protobuf.Reader
import Chronik.Protobuf.Decoder
import Chronik.Protobuf.Primitives
import Chronik.Protobuf.RoundTrip
import Chronik.Protobuf.Merge
import Chronik.Proto.Slp
import Chronik.Proto.Tx
import Chronik.Proto.Block
import Chronik.Proto.Utxo
import Chronik.Proto.Ws
import Chronik.Proto.Codec
import Chronik.Proto.Grammar
import Chronik.Proto.Groups
import Chronik.Proto.Merge
import Chronik.Proto.Json
import Chronik.Server.Schema
import Chronik.Client.Hex
import Chronik.Client.Convert
import Chronik.Client.Endpoints
import Chronik.Client.WsEndpoint
import Chronik.Client.HandleMsg
