import EspIdfMatter.Library.Machine
import EspIdfMatter.Library.BoundedVec
import EspIdfMatter.Library.Generation
import EspIdfMatter.Btp
import EspIdfMatter.Session
import EspIdfMatter.Isolation
import EspIdfMatter.Nimble.Delivery
import EspIdfMatter.Nimble.FlowControl
import EspIdfMatter.Nimble.Refusal
import EspIdfMatter.Nimble.Discovery
import EspIdfMatter.Nimble.Reset
import EspIdfMatter.Nimble.Links
import EspIdfMatter.Central.Indications
import EspIdfMatter.Central.Safety
import EspIdfMatter.Central.Handles
import EspIdfMatter.Central.Waits
import EspIdfMatter.Link
import EspIdfMatter.Bluedroid.FlowControl
import EspIdfMatter.Bluedroid.Responses
import EspIdfMatter.Bluedroid.Acknowledge
import EspIdfMatter.Bluedroid.Peers
import EspIdfMatter.Bluedroid.Reset
import EspIdfMatter.Thread.Registrations
import EspIdfMatter.Thread.Connect
import EspIdfMatter.Thread.Scan
import EspIdfMatter.Thread.Icd
import EspIdfMatter.Netif.Changes
import EspIdfMatter.Wifi.Connect
import EspIdfMatter.Backends
import EspIdfMatter.Wakeups
import EspIdfMatter.Duplex.Delivery
import EspIdfMatter.Thread.Uninterrupted
import EspIdfMatter.Thread.Notify
import EspIdfMatter.Netif.Notify
import EspIdfMatter.Persist
import EspIdfMatter.Library.Bits
import EspIdfMatter.Library.Visit
import EspIdfMatter.Central.Completion
import EspIdfMatter.Bluedroid.Registration
import EspIdfMatter.Thread.Diag
import EspIdfMatter.Thread.Dns
import EspIdfMatter.Wifi.Scan
import EspIdfMatter.Wifi.Notify
import EspIdfMatter.SwDiag
import EspIdfMatter.Duplex.Handover
