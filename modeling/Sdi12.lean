import Sdi12.Protocol
import Sdi12.Crc
import Sdi12.CrcDetection
import Sdi12.Sensor.Context
import Sdi12.Sensor.DataPage
import Sdi12.Sensor.Handlers
import Sdi12.Sensor.Engine
import Sdi12.Sensor.Invariant
import Sdi12.Sensor.Silence
import Sdi12.Sensor.Frame
import Sdi12.Sensor.Response
import Sdi12.Sensor.Grammar
import Sdi12.Sensor.Decimal
import Sdi12.Sensor.Setup
import Sdi12.Master
import Sdi12.Master.Commands
import Sdi12.PacketReader
import Sdi12.DataValues
import Sdi12.Link
import Sdi12.Session
import Sdi12.Link.Address
import Sdi12.Link.Metadata
import Sdi12.Link.Data
import Sdi12.Link.Measurement
import Sdi12.Link.Extended
import Sdi12.Bus
import Sdi12.Bus.Concurrent
import Sdi12.Recorder
