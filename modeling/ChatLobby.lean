import ChatLobby.Main
import ChatLobby.Rehearsal.Accepting
import ChatLobby.Rehearsal.Groups
import ChatLobby.Rehearsal.Serving
import ChatLobby.SendBuffer.PerThread
import ChatLobby.Proofs.FrameStream
import ChatLobby.Proofs.Acting
import ChatLobby.Proofs.Runs
import ChatLobby.Proofs.Recorder
import ChatLobby.Proofs.Lifecycle
import ChatLobby.Proofs.PartialWrites
import ChatLobby.Proofs.Sending
import ChatLobby.Proofs.Receiving
import ChatLobby.Proofs.FramedReceiving
import ChatLobby.Proofs.FrameRoundTrip
import ChatLobby.Proofs.Calling
import ChatLobby.Proofs.Directory
import ChatLobby.Proofs.ServerPackets
import ChatLobby.Proofs.History
import ChatLobby.Proofs.Handling
import ChatLobby.Proofs.ServerRuns
import ChatLobby.Proofs.Following
import ChatLobby.Proofs.ServerHistory
import ChatLobby.Proofs.Membership
import ChatLobby.Proofs.Presence
import ChatLobby.Proofs.Relay
import ChatLobby.Proofs.FrameSoundness
import ChatLobby.Proofs.PacketRoundTrip
import ChatLobby.Proofs.ReceiveMemory
import ChatLobby.Proofs.Apart
import ChatLobby.Proofs.Twins
import ChatLobby.Proofs.Isolation
import ChatLobby.Proofs.FirstCause
import ChatLobby.Proofs.PacketAcceptance
import ChatLobby.Proofs.Maintaining
import ChatLobby.Proofs.Admission
import ChatLobby.Proofs.OwnInput
import ChatLobby.Proofs.Reserving
import ChatLobby.Proofs.SendDiscipline
import ChatLobby.Proofs.EncodeIsolation
import ChatLobby.Proofs.CursorQueue
import ChatLobby.Proofs.Farewells
import ChatLobby.Proofs.Draining
import ChatLobby.Proofs.RoomBags
import ChatLobby.Proofs.Broadcasting
import ChatLobby.Proofs.EndpointIntegrity
import ChatLobby.Proofs.SettingsRoundTrip
import ChatLobby.Proofs.Rehearsed
