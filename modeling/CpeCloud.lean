import CpeCloud.Lib.Text
import CpeCloud.Lib.Run
import CpeCloud.Lib.Prog
import CpeCloud.Lib.LeakyBucket
import CpeCloud.Lib.Base64
import CpeCloud.Lib.IPv4
import CpeCloud.Lib.Numeral
import CpeCloud.Lib.Rows
import CpeCloud.Lib.Tables
import CpeCloud.Lib.Regex
import CpeCloud.Lib.Pattern
import CpeCloud.Lib.PyValue
import CpeCloud.Lib.Schema
import CpeCloud.Lib.Json
import CpeCloud.Lib.Verbatim
import CpeCloud.Lib.Decode
import CpeCloud.Lib.Template
import CpeCloud.Lib.Sed
import CpeCloud.Settings
import CpeCloud.Models
import CpeCloud.RateLimit
import CpeCloud.RateWindow
import CpeCloud.Tokens
import CpeCloud.AdminTokens
import CpeCloud.AutoEnroll.Request
import CpeCloud.Wireguard.Conf
import CpeCloud.Wireguard.Reader
import CpeCloud.Wireguard.Overlay
import CpeCloud.Wireguard.Sync
import CpeCloud.Wireguard.Atomic
import CpeCloud.Wireguard.Kept
import CpeCloud.AutoEnroll.Transaction
import CpeCloud.AutoEnroll.Validated
import CpeCloud.AutoEnroll.Enrollable
import CpeCloud.AutoEnroll.Handler
import CpeCloud.AutoEnroll.Failure
import CpeCloud.AutoEnroll.Injection
import CpeCloud.AutoEnroll.Rotation
import CpeCloud.AutoEnroll.Density
import CpeCloud.AutoEnroll.Trail
import CpeCloud.Telemetry.Push
import CpeCloud.Telemetry.Influx
import CpeCloud.Telemetry.Payload
import CpeCloud.Telemetry.Points
import CpeCloud.Telemetry.Unknown
import CpeCloud.Telemetry.Reported
import CpeCloud.Telemetry.Isolation
import CpeCloud.Telemetry.Uptime
import CpeCloud.Telemetry.UptimeGrammar
import CpeCloud.Telemetry.Records
import CpeCloud.Telemetry.Bounds
import CpeCloud.AutoEnroll.Import
import CpeCloud.Telemetry.Script
import CpeCloud.Telemetry.RoundTrip
import CpeCloud.Telemetry.Lookups
import CpeCloud.Telemetry.Measured
import CpeCloud.Factory.Installer
import CpeCloud.Factory.ShelfFlash
import CpeCloud.Service
import CpeCloud.Traffic
import CpeCloud.TokenLookup
import CpeCloud.AutoEnroll.Registry
import CpeCloud.Telemetry.Lifetime
import CpeCloud.Concurrent.Enroll
import CpeCloud.Concurrent.Safety
import CpeCloud.Concurrent.Conf
import CpeCloud.Concurrent.Allocation
import CpeCloud.Concurrent.Tokens
import CpeCloud.Concurrent.Mixing
import CpeCloud.Concurrent.Downloads
import CpeCloud.Device.Body
import CpeCloud.Device.Bootstrap
import CpeCloud.Device.Armed
import CpeCloud.Device.Progress
import CpeCloud.Device.Provisioned
import CpeCloud.Device.Known
import CpeCloud.Device.Cloud
import CpeCloud.Device.Agreement
import CpeCloud.Device.Admission
import CpeCloud.Device.Heartbeat
